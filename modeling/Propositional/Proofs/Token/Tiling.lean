import Propositional.Proofs.Token.Layout

/-!
Every source is a layout up to the first character that starts no lexeme. One call of `next` reads
some blanks and then a word that what follows it does not extend, unless it meets the end of the
text or such a character; so the words of a whole scan tile the source, each at the place of its
token.
-/

namespace Propositional

namespace Scanner

/-- What a call of `next` yields and leaves behind, by the text ahead of the scanner. -/
inductive Advances (s : Scanner) : Option Item → Scanner → Prop where
  | word {w : Word} {rest} (hunread : s.unread = w.text ++ rest) (hw : w.Spelled)
      (hrest : w.kind.Bounds rest) :
      Advances s (some (.token (w.token s.position))) (s.skip w.text)
  | invalid {gap c rest} (hunread : s.unread = gap ++ c :: rest) (hgap : Text.AllBlank gap)
      (hstuck : TokenKind.Stuck (c :: rest)) :
      Advances s (some (.invalid ⟨c, s.position + gap.length⟩)) (s.skip gap).fail
  | ended (hunread : Text.AllBlank s.unread) : Advances s none (s.skip s.unread)

theorem Advances.of_skip {s next : Scanner} {gap rest : List Char} {item : Option Item}
    (hunread : s.unread = gap ++ rest) (hgap : Text.AllBlank gap)
    (h : (s.skip gap).Advances item next) : s.Advances item next := by
  have hskip : (s.skip gap).unread = rest := unread_skip hunread
  cases h with
  | @word w rest' hw' hw hrest =>
      have hsplit : s.unread = Word.text ⟨gap ++ w.gap, w.kind, w.lexeme⟩ ++ rest' := by
        rw [hunread, ← hskip, hw']
        simp [Word.text]
      have hspelled : Word.Spelled ⟨gap ++ w.gap, w.kind, w.lexeme⟩ :=
        ⟨Text.allBlank_append hgap hw.blank, hw.visible, hw.spelling⟩
      have hnext := Advances.word hsplit hspelled hrest
      simpa [Word.text, Word.token, skip_skip, Nat.add_assoc] using hnext
  | @invalid gap' c rest' hsplit hgap' hstuck =>
      have hsplit' : s.unread = (gap ++ gap') ++ c :: rest' := by
        rw [hunread, ← hskip, hsplit, List.append_assoc]
      have hnext := Advances.invalid hsplit' (Text.allBlank_append hgap hgap') hstuck
      simpa [skip_skip, Nat.add_assoc] using hnext
  | ended hblank =>
      rw [hskip] at hblank ⊢
      have hnext : s.Advances none (s.skip s.unread) :=
        .ended (hunread ▸ Text.allBlank_append hgap hblank)
      simpa [skip_skip, hunread] using hnext

theorem unread_eq_of_firstLexeme? {s : Scanner} {kind : TokenKind} {lexeme : List Char}
    (h : TokenKind.firstLexeme? TokenKind.all s.unread = some (kind, lexeme)) :
    ∃ rest, s.unread = lexeme ++ rest ∧ kind.Spelling lexeme ∧ kind.Bounds rest := by
  obtain ⟨-, hlexeme⟩ := TokenKind.lexemeAt?_of_firstLexeme? h
  obtain ⟨rest, hrest⟩ := TokenKind.isPrefix_of_lexemeAt? hlexeme
  refine ⟨rest, hrest.symm, TokenKind.spelling_of_lexemeAt? hlexeme, ?_⟩
  rw [← hrest] at hlexeme
  exact TokenKind.bounds_of_lexemeAt? hlexeme

theorem advances_next {s : Scanner} (hs : s.failed = false) : s.Advances s.next.1 s.next.2 := by
  unfold next
  fun_induction nextBy TokenKind.all s with
  | case1 s hfailed =>
      rw [hs] at hfailed
      contradiction
  | case2 s hfailed hhead =>
      have hnil : s.unread = [] := List.head?_eq_none_iff.mp hhead
      have hended : s.Advances none (s.skip s.unread) := by
        apply Advances.ended
        rw [hnil]
        exact Text.allBlank_nil
      rwa [hnil, skip_nil] at hended
  | case3 s hfailed c hhead hnone =>
      obtain ⟨rest, hrest⟩ := List.head?_eq_some_iff.mp hhead
      have hsplit : s.unread = [] ++ c :: rest := hrest
      rw [hrest] at hnone
      exact Advances.invalid hsplit Text.allBlank_nil (TokenKind.stuck_of_firstLexeme? hnone)
  | case4 s hfailed c hhead lexeme hfound ih =>
      obtain ⟨rest, hrest, hblank, -⟩ := unread_eq_of_firstLexeme? hfound
      exact (ih hs).of_skip hrest hblank.2
  | case5 s hfailed c hhead kind lexeme hfound hkind =>
      obtain ⟨rest, hrest, hspelling, hbounds⟩ := unread_eq_of_firstLexeme? hfound
      have hw : Word.Spelled ⟨[], kind, lexeme⟩ := ⟨Text.allBlank_nil, hkind, hspelling⟩
      exact Advances.word hrest hw hbounds

end Scanner

/-- A text cut into words, the blanks after them, and a tail that is empty or starts no lexeme. -/
structure Tiles (text : List Char) (words : List Word) (last tail : List Char) : Prop where
  text_eq : text = Layout.text words ++ last ++ tail
  spelled : ∀ w ∈ words, w.Spelled
  apart : words.IsChain Word.Apart
  blank : Text.AllBlank last
  stuck : TokenKind.Stuck tail

namespace Tiles

variable {text last tail : List Char} {words : List Word}

theorem of_stuck (hblank : Text.AllBlank last) (hstuck : TokenKind.Stuck tail) :
    Tiles (last ++ tail) [] last tail where
  text_eq := rfl
  spelled := fun _ hw => nomatch hw
  apart := .nil
  blank := hblank
  stuck := hstuck

theorem of_allBlank (h : Text.AllBlank text) : Tiles text [] text [] := by
  have hstuck := of_stuck h TokenKind.stuck_nil
  rwa [List.append_nil] at hstuck

theorem apart_of_bounds {w v : Word} (h : Tiles text words last tail)
    (hbounds : w.kind.Bounds text) (hv : v ∈ words.head?) : w.Apart v := by
  obtain ⟨rest, rfl⟩ := List.head?_eq_some_iff.mp hv
  intro hw hname hgap
  have hspelling := (h.spelled v (List.mem_cons_self ..)).spelling
  rw [hname] at hspelling
  obtain ⟨c, run, hlexeme⟩ := List.exists_cons_of_ne_nil hspelling.1
  have hletter : Text.isLetter c = true := hspelling.2 c (by simp [hlexeme])
  have hhead : c ∈ text.head? := by
    simp [h.text_eq, Word.text, hgap, hlexeme]
  rw [hw] at hbounds
  rw [hbounds c hhead] at hletter
  contradiction

theorem cons {w : Word} (h : Tiles text words last tail) (hw : w.Spelled)
    (hbounds : w.kind.Bounds text) : Tiles (w.text ++ text) (w :: words) last tail where
  text_eq := by simp [h.text_eq]
  spelled := List.forall_mem_cons.mpr ⟨hw, h.spelled⟩
  apart := h.apart.cons fun _ hv => h.apart_of_bounds hbounds hv
  blank := h.blank
  stuck := h.stuck

end Tiles

namespace Layout

/-- The tokens of the words and, if text is left after them, the character that it starts with. -/
def items (position : Nat) (words : List Word) (last tail : List Char) : List Item :=
  (tokens position words).map .token ++
    (tail.head?.map fun c => .invalid ⟨c, position + (text words ++ last).length⟩).toList

theorem items_cons (position : Nat) (w : Word) (words : List Word) (last tail : List Char) :
    items position (w :: words) last tail =
      .token (w.token position) :: items (position + w.text.length) words last tail := by
  simp [items, tokens, Nat.add_assoc]

theorem filterMap_items (position : Nat) (words : List Word) (last tail : List Char) :
    (items position words last tail).filterMap Item.token? = tokens position words := by
  rw [items, List.filterMap_append, Scanner.filterMap_map_token]
  cases tail <;> exact List.append_nil _

end Layout

/-- The invalid character that the items of a scan end with, if they do. -/
def endingFault? (items : List Item) : Option InvalidCharacter :=
  items.getLast?.bind Item.invalid?

theorem endingFault?_items (position : Nat) (words : List Word) (last tail : List Char) :
    endingFault? (Layout.items position words last tail) =
      tail.head?.map fun c => ⟨c, position + (Layout.text words ++ last).length⟩ := by
  rw [endingFault?, Layout.items]
  rcases tail with _ | ⟨c, rest⟩
  · rw [List.head?_nil, Option.map_none, Option.toList_none, List.append_nil, List.getLast?_map]
    cases (Layout.tokens position words).getLast? <;> rfl
  · rw [List.head?_cons, Option.map_some, Option.toList_some, List.getLast?_concat]
    rfl

namespace Layout

theorem le_position_of_mem {t : Token} {position : Nat} {words : List Word}
    (h : t ∈ tokens position words) : position ≤ t.position := by
  induction words generalizing position with
  | nil => contradiction
  | cons w rest ih =>
      rcases List.mem_cons.mp h with rfl | hrest
      · exact Nat.le_add_right ..
      · exact Nat.le_trans (Nat.le_add_right ..) (ih hrest)

theorem pairwise_position {words : List Word} (hwords : ∀ w ∈ words, w.Spelled) (position : Nat) :
    (tokens position words).Pairwise fun t u => t.position < u.position := by
  induction words generalizing position with
  | nil => exact .nil
  | cons w rest ih =>
      obtain ⟨hw, hrest⟩ := List.forall_mem_cons.mp hwords
      refine .cons ?_ (ih hrest _)
      intro u hu
      have hpos : 0 < w.lexeme.length := List.length_pos_iff.mpr hw.spelling.ne_nil
      have hle : position + w.text.length ≤ u.position := le_position_of_mem hu
      rw [Word.text, List.length_append] at hle
      change position + w.gap.length < u.position
      omega

end Layout

/-- A scanner yields the items of a tiling of the text ahead of it. -/
theorem Scanner.exists_tiles {s : Scanner} (hs : s.failed = false) :
    ∃ words last tail, Tiles s.unread words last tail ∧
      s.items = Layout.items s.position words last tail := by
  unfold items
  fun_induction itemsBy TokenKind.all s with
  | case1 s hnone =>
      have hstep := advances_next hs
      rw [next, hnone] at hstep
      generalize (s.nextBy TokenKind.all).2 = after at hstep
      cases hstep with
      | ended hblank => exact ⟨[], s.unread, [], .of_allBlank hblank, rfl⟩
  | case2 s item hsome ih =>
      have hstep := advances_next hs
      rw [next, hsome] at hstep
      generalize (s.nextBy TokenKind.all).2 = after at hstep ih
      cases hstep with
      | @word w rest hunread hw hrest =>
          obtain ⟨words, last, tail, htiles, hitems⟩ := ih hs
          rw [unread_skip hunread] at htiles
          refine ⟨w :: words, last, tail, hunread ▸ htiles.cons hw hrest, ?_⟩
          rw [Layout.items_cons, hitems, position_skip]
      | @invalid gap c rest hunread hgap hstuck =>
          have hended : (s.skip gap).fail.itemsBy TokenKind.all = [] := items_of_failed rfl
          refine ⟨[], gap, c :: rest, hunread ▸ .of_stuck hgap hstuck, ?_⟩
          rw [hended]
          rfl

namespace Scanner

theorem next_of_stuck {s : Scanner} {gap rest : List Char} {c : Char} (hs : s.failed = false)
    (h : s.unread = gap ++ c :: rest) (hgap : Text.AllBlank gap)
    (hstuck : TokenKind.Stuck (c :: rest)) :
    s.next = (some (.invalid ⟨c, s.position + gap.length⟩), (s.skip gap).fail) := by
  have hskip : (s.skip gap).failed = false := hs
  rw [next_of_gap hs h hgap (hstuck.bounds .blank), next, nextBy_eq, hskip,
    if_neg Bool.false_ne_true, unread_skip h, TokenKind.firstLexeme?_of_stuck hstuck]
  rfl

theorem items_of_tiles {s : Scanner} {words : List Word} {last tail : List Char}
    (hs : s.failed = false) (h : Tiles s.unread words last tail) :
    s.items = Layout.items s.position words last tail := by
  have hbounds : TokenKind.name.Bounds (last ++ tail) :=
    (Layout.bounds_name_of_allBlank h.blank).append (h.stuck.bounds _)
  have hunread : s.unread = Layout.text words ++ (last ++ tail) := by
    rw [h.text_eq, List.append_assoc]
  have hskip : (s.skip (Layout.text words)).failed = false := hs
  have hrest : (s.skip (Layout.text words)).unread = last ++ tail := unread_skip hunread
  rw [Layout.items_of_words hs hunread h.spelled h.apart hbounds, Layout.items]
  congr 1
  rcases tail with _ | ⟨c, rest⟩
  · exact Layout.items_of_unread_eq_blank hskip (hrest.trans (List.append_nil last)) h.blank
  · have hnext := next_of_stuck hskip hrest h.blank h.stuck
    have hended : ((s.skip (Layout.text words)).skip last).fail.items = [] := items_of_failed rfl
    rw [items_of_some (congrArg Prod.fst hnext), hnext, hended, position_skip, Nat.add_assoc,
      ← List.length_append]
    rfl

end Scanner

theorem scan_eq_of_tiles {source : String} {words : List Word} {last tail : List Char}
    (h : Tiles source.toList words last tail) : scan source = Layout.items 0 words last tail := by
  have hstart : (Scanner.start source).failed = false := rfl
  exact Scanner.items_of_tiles hstart h

theorem exists_scan_eq_items (source : String) :
    ∃ words last tail, Tiles source.toList words last tail ∧
      scan source = Layout.items 0 words last tail := by
  have hstart : (Scanner.start source).failed = false := rfl
  exact Scanner.exists_tiles hstart

theorem pairwise_position_scan (source : String) :
    ((scan source).filterMap Item.token?).Pairwise fun t u => t.position < u.position := by
  obtain ⟨words, last, tail, htiles, hscan⟩ := exists_scan_eq_items source
  rw [hscan, Layout.filterMap_items]
  exact Layout.pairwise_position htiles.spelled 0

theorem spelling_of_mem_scan {source : String} {t : Token}
    (h : t ∈ (scan source).filterMap Item.token?) :
    t.kind ≠ .blank ∧ t.kind.Spelling t.lexeme.toList := by
  obtain ⟨words, last, tail, htiles, hscan⟩ := exists_scan_eq_items source
  rw [hscan, Layout.filterMap_items] at h
  obtain ⟨w, hw, hkind, hlexeme⟩ := Layout.exists_word_of_mem_tokens h
  have hspelled := htiles.spelled w hw
  rw [hkind, hlexeme, String.toList_ofList]
  exact ⟨hspelled.visible, hspelled.spelling⟩

theorem scan_of_tiles {source : String} {words : List Word} {last : List Char}
    (h : Tiles source.toList words last []) :
    scan source = (Layout.tokens 0 words).map .token := by
  rw [scan_eq_of_tiles h]
  exact List.append_nil _

theorem scan_eq_nil_iff {source : String} : scan source = [] ↔ Text.AllBlank source.toList := by
  constructor
  · intro hnil
    obtain ⟨words, last, tail, htiles, hscan⟩ := exists_scan_eq_items source
    rw [hnil] at hscan
    rcases words with _ | ⟨w, rest⟩
    · rcases tail with _ | ⟨c, rest⟩
      · rw [htiles.text_eq, List.append_nil]
        exact htiles.blank
      · contradiction
    · contradiction
  · intro hblank
    rw [scan_eq_of_tiles (.of_allBlank hblank)]
    rfl

/-- The items of a scan are the tokens of words that tile the source with blanks between them, each
placed after all that stands before it, and then, if no lexeme starts what is left of the source,
the character that is met there. -/
theorem exists_tiles_scan (source : String) :
    ∃ words last tail, Tiles source.toList words last tail ∧
      scan source =
        (words.mapIdx fun i w => .token (w.token (Layout.text (words.take i)).length)) ++
          (tail.head?.map fun c =>
            .invalid ⟨c, (Layout.text words ++ last).length⟩).toList := by
  have hstart : (Scanner.start source).failed = false := rfl
  obtain ⟨words, last, tail, htiles, hitems⟩ := Scanner.exists_tiles hstart
  refine ⟨words, last, tail, htiles, ?_⟩
  change (Scanner.start source).items = _
  rw [hitems, Layout.items, ← Layout.items_eq_mapIdx]
  simp [Scanner.start]

end Propositional
