import Propositional.Token.Spelling

namespace Propositional

theorem head?_eq_of_isPrefix {α : Type} {l l' : List α} (h : l <+: l') (hne : l ≠ []) :
    l'.head? = l.head? := by
  obtain ⟨c, rest, rfl⟩ := List.exists_cons_of_ne_nil hne
  obtain ⟨after, rfl⟩ := h
  rfl

namespace Text

theorem disjoint_ranges {a b : Ranges}
    (hdisjoint : ∀ r ∈ a, ∀ r' ∈ b, r.2 < r'.1 ∨ r'.2 < r.1) {n : Nat}
    (ha : a.contains n = true) : b.contains n = false := by
  apply Bool.eq_false_iff.mpr
  intro hb
  obtain ⟨r, hr, hlow, hhigh⟩ := Ranges.exists_of_contains ha
  obtain ⟨r', hr', hlow', hhigh'⟩ := Ranges.exists_of_contains hb
  rcases hdisjoint r hr r' hr' with h | h <;> omega

theorem isLetter_of_isBlank {c : Char} (h : isBlank c = true) : isLetter c = false :=
  disjoint_ranges (by decide +kernel) h

end Text

namespace TokenKind

/-- The kind of the lexemes that start with a character. -/
def startedBy? (c : Char) : Option TokenKind :=
  if Text.isLetter c then some name
  else if Text.isBlank c then some blank
  else all.find? fun kind => kind.glyphs.any fun glyph => glyph.head? = some c

theorem startedBy?_of_isLetter {c : Char} (h : Text.isLetter c = true) :
    startedBy? c = some name :=
  if_pos h

theorem startedBy?_of_isBlank {c : Char} (h : Text.isBlank c = true) :
    startedBy? c = some blank := by
  rw [startedBy?, Text.isLetter_of_isBlank h, if_neg Bool.false_ne_true, if_pos h]

theorem startedBy?_of_mem_glyphs {kind : TokenKind} {glyph : List Char}
    (h : glyph ∈ kind.glyphs) : glyph.head?.bind startedBy? = some kind := by
  have hall : ∀ kind ∈ all, ∀ glyph ∈ kind.glyphs,
      glyph.head?.bind startedBy? = some kind := by
    decide +kernel
  exact hall kind (mem_all kind) glyph h

theorem ne_nil_of_mem_glyphs {kind : TokenKind} {glyph : List Char} (h : glyph ∈ kind.glyphs) :
    glyph ≠ [] := by
  rintro rfl
  have hstart := startedBy?_of_mem_glyphs h
  contradiction

theorem eq_of_mem_glyphs {kind : TokenKind} {glyph glyph' : List Char}
    (h : glyph ∈ kind.glyphs) (h' : glyph' ∈ kind.glyphs) (hhead : glyph.head? = glyph'.head?) :
    glyph = glyph' := by
  have hall : ∀ kind ∈ all, ∀ glyph ∈ kind.glyphs, ∀ glyph' ∈ kind.glyphs,
      glyph.head? = glyph'.head? → glyph = glyph' := by
    decide
  exact hall kind (mem_all kind) glyph h glyph' h' hhead

theorem startedBy?_of_spelling {kind : TokenKind} {lexeme : List Char}
    (h : kind.Spelling lexeme) : lexeme.head?.bind startedBy? = some kind := by
  cases kind
  case name =>
    obtain ⟨c, rest, rfl⟩ := List.exists_cons_of_ne_nil h.1
    exact startedBy?_of_isLetter (h.2 c (List.mem_cons_self ..))
  case blank =>
    obtain ⟨c, rest, rfl⟩ := List.exists_cons_of_ne_nil h.1
    exact startedBy?_of_isBlank (h.2 c (List.mem_cons_self ..))
  all_goals exact startedBy?_of_mem_glyphs h

theorem startedBy?_of_lexemeAt? {kind : TokenKind} {text lexeme : List Char}
    (h : kind.lexemeAt? text = some lexeme) : text.head?.bind startedBy? = some kind := by
  have hspelling := spelling_of_lexemeAt? h
  rw [head?_eq_of_isPrefix (isPrefix_of_lexemeAt? h) hspelling.ne_nil]
  exact startedBy?_of_spelling hspelling

/-- A text starts with lexemes of one kind at most. -/
theorem eq_of_lexemeAt? {kind kind' : TokenKind} {text lexeme lexeme' : List Char}
    (h : kind.lexemeAt? text = some lexeme) (h' : kind'.lexemeAt? text = some lexeme') :
    kind = kind' := by
  have hkind := startedBy?_of_lexemeAt? h
  rw [startedBy?_of_lexemeAt? h'] at hkind
  exact (Option.some.inj hkind).symm

theorem firstLexeme?_eq_some_iff {order : List TokenKind} {kind : TokenKind}
    {text lexeme : List Char} :
    firstLexeme? order text = some (kind, lexeme) ↔
      kind ∈ order ∧ kind.lexemeAt? text = some lexeme := by
  constructor
  · exact lexemeAt?_of_firstLexeme?
  · rintro ⟨hmem, hlexeme⟩
    match hfound : firstLexeme? order text with
    | none =>
        have hnone := List.findSome?_eq_none_iff.mp hfound kind hmem
        rw [hlexeme] at hnone
        contradiction
    | some (kind', lexeme') =>
        have hlexeme' := (lexemeAt?_of_firstLexeme? hfound).2
        obtain rfl := eq_of_lexemeAt? hlexeme hlexeme'
        rw [hlexeme] at hlexeme'
        rw [Option.some.inj hlexeme']

/-- A text that does not extend a lexeme of this kind when it follows one. -/
def Bounds (kind : TokenKind) (rest : List Char) : Prop :=
  match kind with
  | name => ∀ c ∈ rest.head?, Text.isLetter c = false
  | blank => ∀ c ∈ rest.head?, Text.isBlank c = false
  | _ => True

end TokenKind

theorem longestRun?_append {p : Char → Bool} {run rest : List Char} (hne : run ≠ [])
    (hrun : ∀ c ∈ run, p c = true) (hrest : ∀ c ∈ rest.head?, p c = false) :
    longestRun? p (run ++ rest) = some run := by
  have hstop : rest.takeWhile p = [] := by
    rcases rest with _ | ⟨c, rest⟩
    · rfl
    · have hc : ¬ p c = true := by simp [hrest c rfl]
      exact List.takeWhile_cons_of_neg hc
  refine longestRun?_eq_some_iff.mpr ⟨?_, hne⟩
  rw [List.takeWhile_append_of_pos hrun, hstop, List.append_nil]

theorem glyphAt?_append {glyphs : List (List Char)} {glyph : List Char} (hmem : glyph ∈ glyphs)
    (hne : ∀ g ∈ glyphs, g ≠ []) (hhead : ∀ g ∈ glyphs, g.head? = glyph.head? → g = glyph)
    (rest : List Char) : glyphAt? glyphs (glyph ++ rest) = some glyph := by
  match hfound : glyphAt? glyphs (glyph ++ rest) with
  | none =>
      have hnone := List.find?_eq_none.mp hfound glyph hmem
      simp at hnone
  | some g =>
      obtain ⟨hg, hprefix⟩ := mem_of_glyphAt? hfound
      have hsame : g.head? = glyph.head? := by
        rw [← head?_eq_of_isPrefix hprefix (hne g hg)]
        exact head?_eq_of_isPrefix (List.prefix_append _ _) (hne glyph hmem)
      rw [hhead g hg hsame]

namespace TokenKind

theorem lexemeAt?_append {kind : TokenKind} {lexeme rest : List Char}
    (h : kind.Spelling lexeme) (hrest : kind.Bounds rest) :
    kind.lexemeAt? (lexeme ++ rest) = some lexeme := by
  cases kind
  case name => exact longestRun?_append h.1 h.2 hrest
  case blank => exact longestRun?_append h.1 h.2 hrest
  all_goals
    exact glyphAt?_append h (fun _ => ne_nil_of_mem_glyphs)
      (fun _ hg hsame => eq_of_mem_glyphs hg h hsame) rest

theorem firstLexeme?_append {kind : TokenKind} {lexeme rest : List Char}
    (h : kind.Spelling lexeme) (hrest : kind.Bounds rest) :
    firstLexeme? all (lexeme ++ rest) = some (kind, lexeme) :=
  firstLexeme?_eq_some_iff.mpr ⟨mem_all kind, lexemeAt?_append h hrest⟩

end TokenKind

theorem eq_false_of_longestRun?_append {p : Char → Bool} {run rest : List Char}
    (h : longestRun? p (run ++ rest) = some run) : ∀ c ∈ rest.head?, p c = false := by
  have hrun := (longestRun?_eq_some_iff.mp h).1
  rw [List.takeWhile_append_of_pos (forall_of_longestRun? h)] at hrun
  have hstop : rest.takeWhile p = [] := List.self_eq_append_right.mp hrun
  intro c hc
  obtain ⟨tail, rfl⟩ := List.head?_eq_some_iff.mp hc
  apply Bool.eq_false_iff.mpr
  intro hp
  rw [List.takeWhile_cons_of_pos hp] at hstop
  contradiction

theorem longestRun?_ne_none {p : Char → Bool} {run text : List Char} (hne : run ≠ [])
    (hrun : ∀ c ∈ run, p c = true) (hstart : run <+: text) : longestRun? p text ≠ none := by
  obtain ⟨c, run, rfl⟩ := List.exists_cons_of_ne_nil hne
  obtain ⟨rest, rfl⟩ := hstart
  have hc : p c = true := hrun c (List.mem_cons_self ..)
  rw [longestRun?, List.cons_append, List.takeWhile_cons_of_pos hc]
  exact Option.some_ne_none _

theorem glyphAt?_ne_none {glyphs : List (List Char)} {glyph text : List Char}
    (hmem : glyph ∈ glyphs) (hstart : glyph <+: text) : glyphAt? glyphs text ≠ none := by
  intro hnone
  exact List.find?_eq_none.mp hnone glyph hmem (List.isPrefixOf_iff_prefix.mpr hstart)

namespace TokenKind

theorem bounds_of_lexemeAt? {kind : TokenKind} {lexeme rest : List Char}
    (h : kind.lexemeAt? (lexeme ++ rest) = some lexeme) : kind.Bounds rest := by
  cases kind
  case name => exact eq_false_of_longestRun?_append h
  case blank => exact eq_false_of_longestRun?_append h
  all_goals trivial

theorem lexemeAt?_ne_none {kind : TokenKind} {lexeme text : List Char}
    (h : kind.Spelling lexeme) (hstart : lexeme <+: text) : kind.lexemeAt? text ≠ none := by
  cases kind
  case name => exact longestRun?_ne_none h.1 h.2 hstart
  case blank => exact longestRun?_ne_none h.1 h.2 hstart
  all_goals exact glyphAt?_ne_none h hstart

/-- No lexeme of any kind starts the text. -/
def Stuck (text : List Char) : Prop :=
  ∀ (kind : TokenKind) (lexeme : List Char), kind.Spelling lexeme → ¬ lexeme <+: text

theorem stuck_nil : Stuck [] := by
  intro kind lexeme hspelling hstart
  exact hspelling.ne_nil (List.prefix_nil.mp hstart)

theorem stuck_of_firstLexeme? {text : List Char} (h : firstLexeme? all text = none) :
    Stuck text := by
  intro kind lexeme hspelling hstart
  apply lexemeAt?_ne_none hspelling hstart
  have hnone := List.findSome?_eq_none_iff.mp h kind (mem_all kind)
  exact Option.map_eq_none_iff.mp hnone

theorem firstLexeme?_of_stuck {text : List Char} (h : Stuck text) : firstLexeme? all text = none := by
  match hfound : firstLexeme? all text with
  | none => rfl
  | some (kind, lexeme) =>
      have hlexeme := (lexemeAt?_of_firstLexeme? hfound).2
      exact (h kind lexeme (spelling_of_lexemeAt? hlexeme) (isPrefix_of_lexemeAt? hlexeme)).elim

theorem Stuck.bounds {text : List Char} (h : Stuck text) (kind : TokenKind) : kind.Bounds text := by
  have hstart : ∀ c ∈ text.head?, [c] <+: text := by
    intro c hc
    obtain ⟨rest, rfl⟩ := List.head?_eq_some_iff.mp hc
    exact ⟨rest, rfl⟩
  cases kind
  case name =>
    intro c hc
    apply Bool.eq_false_iff.mpr
    intro hletter
    exact h name [c] ⟨List.cons_ne_nil _ _, by simpa [Text.AllLetters]⟩ (hstart c hc)
  case blank =>
    intro c hc
    apply Bool.eq_false_iff.mpr
    intro hblank
    exact h blank [c] ⟨List.cons_ne_nil _ _, by simpa [Text.AllBlank]⟩ (hstart c hc)
  all_goals trivial

theorem Bounds.append_of_ne_nil {kind : TokenKind} {text : List Char} (h : kind.Bounds text)
    (hne : text ≠ []) (after : List Char) : kind.Bounds (text ++ after) := by
  obtain ⟨c, rest, rfl⟩ := List.exists_cons_of_ne_nil hne
  cases kind
  case name => exact h
  case blank => exact h
  all_goals trivial

theorem Bounds.append {kind : TokenKind} {text text' : List Char} (h : kind.Bounds text)
    (h' : kind.Bounds text') : kind.Bounds (text ++ text') := by
  by_cases hnil : text = []
  · rwa [hnil]
  · exact h.append_of_ne_nil hnil text'

end TokenKind

end Propositional
