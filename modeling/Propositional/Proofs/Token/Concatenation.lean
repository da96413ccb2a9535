import Propositional.Proofs.Token.Tiling

namespace Propositional

namespace Item

/-- The same item that many characters further on. -/
def shift (n : Nat) : Item → Item
  | .token t => .token { t with position := t.position + n }
  | .invalid fault => .invalid { fault with position := fault.position + n }

end Item

namespace Layout

theorem map_shift_tokens (n position : Nat) (words : List Word) :
    ((tokens position words).map Item.token).map (Item.shift n) =
      (tokens (position + n) words).map .token := by
  induction words generalizing position with
  | nil => rfl
  | cons w rest ih =>
      simp only [tokens, List.map_cons, ih, Item.shift, Word.token, Nat.add_right_comm _ n]

theorem map_shift_items (n position : Nat) (words : List Word) (last tail : List Char) :
    (items position words last tail).map (Item.shift n) = items (position + n) words last tail := by
  rw [items, items, List.map_append, map_shift_tokens]
  cases tail <;> simp [Item.shift, Nat.add_right_comm _ n]

end Layout

namespace TokenKind

theorem isBlank_eq_false_of_mem {kind : TokenKind} {lexeme : List Char} {c : Char}
    (hkind : kind ≠ blank) (h : kind.Spelling lexeme) (hc : c ∈ lexeme) :
    Text.isBlank c = false := by
  have hglyphs : ∀ kind ∈ all, ∀ glyph ∈ kind.glyphs, glyph.any Text.isBlank = false := by
    decide
  cases kind
  case name =>
    apply Bool.eq_false_iff.mpr
    intro hblank
    have hletter := h.2 c hc
    rw [Text.isLetter_of_isBlank hblank] at hletter
    contradiction
  case blank => contradiction
  all_goals
    have hnone := List.any_eq_false.mp (hglyphs _ (mem_all _) lexeme h) c hc
    exact Bool.eq_false_iff.mpr hnone

end TokenKind

theorem isPrefix_of_not_mem {α : Type} {l text rest : List α} {a : α}
    (h : l <+: text ++ a :: rest) (ha : a ∉ l) : l <+: text := by
  have hwhole : text ++ [a] <+: text ++ a :: rest := ⟨rest, by simp⟩
  rcases List.prefix_or_prefix_of_prefix h hwhole with hshort | ⟨more, rfl⟩
  · rcases List.prefix_concat_iff.mp hshort with rfl | hprefix
    · simp at ha
    · exact hprefix
  · simp at ha

theorem TokenKind.Stuck.append_blank {text gap : List Char} (h : Stuck text) (hne : text ≠ [])
    (hgap : Text.AllBlank gap) (hgapne : gap ≠ []) (after : List Char) :
    Stuck (text ++ (gap ++ after)) := by
  intro kind lexeme hspelling hstart
  by_cases hkind : kind = .blank
  · subst hkind
    obtain ⟨a, rest, rfl⟩ := List.exists_cons_of_ne_nil hne
    obtain ⟨c, lexeme, rfl⟩ := List.exists_cons_of_ne_nil hspelling.1
    obtain ⟨rfl, -⟩ := List.cons_prefix_cons.mp hstart
    have hblank : Text.isBlank c = true := hspelling.2 c (List.mem_cons_self ..)
    have hc : Spelling blank [c] := ⟨List.cons_ne_nil _ _, by simpa [Text.AllBlank]⟩
    exact h blank [c] hc ⟨rest, rfl⟩
  · obtain ⟨b, gap, rfl⟩ := List.exists_cons_of_ne_nil hgapne
    have hb : b ∉ lexeme := by
      intro hmem
      have hblank : Text.isBlank b = true := hgap b (List.mem_cons_self ..)
      rw [isBlank_eq_false_of_mem hkind hspelling hmem] at hblank
      contradiction
    exact h kind lexeme hspelling (isPrefix_of_not_mem hstart hb)

theorem Tiles.append_blank {text last tail gap : List Char} {words : List Word}
    (h : Tiles text words last tail) (htail : tail ≠ []) (hgap : Text.AllBlank gap)
    (hgapne : gap ≠ []) (after : List Char) :
    Tiles (text ++ (gap ++ after)) words last (tail ++ (gap ++ after)) where
  text_eq := by rw [h.text_eq, List.append_assoc _ tail]
  spelled := h.spelled
  apart := h.apart
  blank := h.blank
  stuck := h.stuck.append_blank htail hgap hgapne after

namespace Scanner

theorem next_skip_gap {s : Scanner} {gap rest : List Char} (hs : s.failed = false)
    (h : s.unread = gap ++ rest) (hgap : Text.AllBlank gap) : (s.skip gap).next = s.next := by
  have hrest : rest.takeWhile Text.isBlank ++ rest.dropWhile Text.isBlank = rest :=
    List.takeWhile_append_dropWhile
  have hblank : Text.AllBlank (rest.takeWhile Text.isBlank) :=
    List.all_eq_true.mp List.all_takeWhile
  have hbounds : TokenKind.blank.Bounds (rest.dropWhile Text.isBlank) := by
    intro c hc
    have hdrop := List.head?_dropWhile_not Text.isBlank rest
    rw [hc] at hdrop
    simpa using hdrop
  have hskip : (s.skip gap).failed = false := hs
  have hunread : s.unread =
      (gap ++ rest.takeWhile Text.isBlank) ++ rest.dropWhile Text.isBlank := by
    rw [List.append_assoc, hrest, h]
  rw [next_of_gap hs hunread (Text.allBlank_append hgap hblank) hbounds, ← skip_skip]
  exact next_of_gap hskip ((unread_skip h).trans hrest.symm) hblank hbounds

theorem items_skip_gap {s : Scanner} {gap rest : List Char} (hs : s.failed = false)
    (h : s.unread = gap ++ rest) (hgap : Text.AllBlank gap) : (s.skip gap).items = s.items := by
  rw [items_eq, next_skip_gap hs h hgap, ← items_eq]

end Scanner

theorem Scanner.items_eq_map_shift {s : Scanner} {source : String} (hs : s.failed = false)
    (h : s.unread = source.toList) : s.items = (scan source).map (Item.shift s.position) := by
  obtain ⟨words, last, tail, htiles, hscan⟩ := exists_scan_eq_items source
  rw [hscan, Layout.map_shift_items, Nat.zero_add]
  exact items_of_tiles hs (h ▸ htiles)

section

variable {s w : String} {words : List Word} {last tail : List Char}

theorem scan_append_of_fault (h : Tiles s.toList words last tail) (htail : tail ≠ [])
    (hw : Text.AllBlank w.toList) (hne : w.toList ≠ []) (t : String) :
    scan (s ++ w ++ t) = scan s := by
  have hlonger : Tiles (s ++ w ++ t).toList words last (tail ++ (w.toList ++ t.toList)) := by
    rw [String.toList_append, String.toList_append, List.append_assoc]
    exact h.append_blank htail hw hne t.toList
  rw [scan_eq_of_tiles hlonger, scan_eq_of_tiles h, Layout.items, Layout.items,
    List.head?_append_of_ne_nil _ htail]

theorem scan_append_of_tokens (h : Tiles s.toList words last [])
    (hw : Text.AllBlank w.toList) (hne : w.toList ≠ []) (t : String) :
    scan (s ++ w ++ t) = scan s ++ (scan t).map (Item.shift (s ++ w).length) := by
  let scanner := Scanner.start (s ++ w ++ t)
  let second := (scanner.skip (Layout.text words)).skip (last ++ w.toList)
  have hgap : Text.AllBlank (last ++ w.toList) := Text.allBlank_append h.blank hw
  have hs : s.toList = Layout.text words ++ last := by
    rw [h.text_eq, List.append_nil]
  have hunread : scanner.unread = Layout.text words ++ ((last ++ w.toList) ++ t.toList) := by
    change (s ++ w ++ t).toList = _
    rw [String.toList_append, String.toList_append, hs]
    simp only [List.append_assoc]
  have hbounds : TokenKind.name.Bounds ((last ++ w.toList) ++ t.toList) :=
    (Layout.bounds_name_of_allBlank hgap).append_of_ne_nil (by simp [hne]) t.toList
  have hrest := Scanner.unread_skip hunread
  have hfirst : (scanner.skip (Layout.text words)).failed = false := rfl
  have hsecond : second.failed = false := rfl
  have hposition : second.position = (s ++ w).length := by
    rw [← String.length_toList, String.toList_append, hs]
    simp [second, scanner, Scanner.start]
  have hscanner : scanner.failed = false := rfl
  calc scan (s ++ w ++ t)
    _ = (Layout.tokens 0 words).map Item.token ++ (scanner.skip (Layout.text words)).items :=
        Layout.items_of_words hscanner hunread h.spelled h.apart hbounds
    _ = scan s ++ second.items := by
        rw [scan_of_tiles h, Scanner.items_skip_gap hfirst hrest hgap]
    _ = scan s ++ (scan t).map (Item.shift (s ++ w).length) := by
        rw [Scanner.items_eq_map_shift hsecond (Scanner.unread_skip hrest), hposition]

end

/-- A text, then one blank or more, then another text. If an invalid character ends the scan of the
first, it ends this scan as well. If none does, the items of the second text come after those of
the first, moved by the length of all that stands before it. -/
theorem scan_append_of_blank {w : String} (hw : Text.AllBlank w.toList) (hne : w ≠ "")
    (s t : String) :
    (∀ fault, endingFault? (scan s) = some fault → scan (s ++ w ++ t) = scan s) ∧
      (endingFault? (scan s) = none →
        scan (s ++ w ++ t) = scan s ++ (scan t).map (Item.shift (s ++ w).length)) := by
  have hnil : w.toList ≠ [] := by simpa using hne
  obtain ⟨words, last, tail, htiles, hscan⟩ := exists_scan_eq_items s
  have hfault := endingFault?_items 0 words last tail
  rw [← hscan] at hfault
  constructor
  · intro fault hend
    apply scan_append_of_fault htiles _ hw hnil
    rintro rfl
    rw [hend] at hfault
    contradiction
  · intro hend
    rw [hend, eq_comm, Option.map_eq_none_iff, List.head?_eq_none_iff] at hfault
    subst hfault
    exact scan_append_of_tokens htiles hw hnil t

theorem scan_append_of_slashes :
    (Text.AllBlank " \u3000".toList ∧ " \u3000" ≠ "") ∧
      scan ("p / " ++ " \u3000" ++ "/\\q") = [.token ⟨.name, "p", 0⟩, .invalid ⟨'/', 2⟩] ∧
      scan ("p /\\ " ++ " \u3000" ++ " q\\") =
        [.token ⟨.name, "p", 0⟩, .token ⟨.conjunction, "/\\", 2⟩, .token ⟨.name, "q", 8⟩,
          .invalid ⟨'\\', 9⟩] := by
  have hblank : Text.AllBlank " \u3000".toList := by decide +kernel
  have hne : " \u3000" ≠ "" := by decide
  have hlone : scan "p / " = [.token ⟨.name, "p", 0⟩, .invalid ⟨'/', 2⟩] := by decide +kernel
  have hpair : scan "p /\\ " = [.token ⟨.name, "p", 0⟩, .token ⟨.conjunction, "/\\", 2⟩] := by
    decide +kernel
  have hsecond : scan " q\\" = [.token ⟨.name, "q", 1⟩, .invalid ⟨'\\', 2⟩] := by decide +kernel
  obtain ⟨hfault, -⟩ := scan_append_of_blank hblank hne "p / " "/\\q"
  obtain ⟨-, htokens⟩ := scan_append_of_blank hblank hne "p /\\ " " q\\"
  refine ⟨⟨hblank, hne⟩, ?_, ?_⟩
  · rw [hfault ⟨'/', 2⟩ (by rw [hlone]; rfl), hlone]
  · rw [htokens (by rw [hpair]; rfl), hpair, hsecond]
    rfl

end Propositional
