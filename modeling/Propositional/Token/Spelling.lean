import Propositional.Text.Blank
import Propositional.Text.Letter
import Propositional.Token

namespace Propositional

/-- The longest start of a text whose characters all satisfy `p`, unless it is empty. -/
def longestRun? (p : Char → Bool) (text : List Char) : Option (List Char) :=
  match text.takeWhile p with
  | [] => none
  | c :: run => some (c :: run)

theorem longestRun?_eq_some_iff {p : Char → Bool} {text run : List Char} :
    longestRun? p text = some run ↔ run = text.takeWhile p ∧ run ≠ [] := by
  unfold longestRun?
  split
  · next h => simp [h]
  · next c rest h =>
      rw [h]
      constructor
      · rintro ⟨rfl⟩
        exact ⟨rfl, by simp⟩
      · rintro ⟨rfl, -⟩
        rfl

theorem forall_of_longestRun? {p : Char → Bool} {text run : List Char}
    (h : longestRun? p text = some run) : ∀ c ∈ run, p c = true := by
  intro c hc
  rw [(longestRun?_eq_some_iff.mp h).1] at hc
  exact List.all_eq_true.mp List.all_takeWhile c hc

/-- The first of the glyphs that the text starts with. -/
def glyphAt? (glyphs : List (List Char)) (text : List Char) : Option (List Char) :=
  glyphs.find? (·.isPrefixOf text)

theorem mem_of_glyphAt? {glyphs : List (List Char)} {text glyph : List Char}
    (h : glyphAt? glyphs text = some glyph) : glyph ∈ glyphs ∧ glyph <+: text := by
  obtain ⟨hstart, before, after, rfl, -⟩ := List.find?_eq_some_iff_append.mp h
  exact ⟨by simp, List.isPrefixOf_iff_prefix.mp hstart⟩

namespace TokenKind

def glyphs : TokenKind → List (List Char)
  | negation => [['~'], ['¬']]
  | conjunction => [['∧'], ['&'], ['∙'], ['/', '\\']]
  | disjunction => [['∨'], ['|'], ['\\', '/']]
  | implication => [['>'], ['→'], ['⇒'], ['⊃']]
  | opening => [['(']]
  | closing => [[')']]
  | name => []
  | blank => []

/-- The texts that a kind of token may be written as. -/
def Spelling : TokenKind → List Char → Prop
  | name, lexeme => lexeme ≠ [] ∧ Text.AllLetters lexeme
  | blank, lexeme => lexeme ≠ [] ∧ Text.AllBlank lexeme
  | kind, lexeme => lexeme ∈ kind.glyphs

instance (kind : TokenKind) (lexeme : List Char) : Decidable (kind.Spelling lexeme) :=
  match kind with
  | name => inferInstanceAs (Decidable (lexeme ≠ [] ∧ Text.AllLetters lexeme))
  | blank => inferInstanceAs (Decidable (lexeme ≠ [] ∧ Text.AllBlank lexeme))
  | negation | conjunction | disjunction | implication | opening | closing =>
      inferInstanceAs (Decidable (lexeme ∈ glyphs _))

/-- The lexeme of this kind that the text starts with. -/
def lexemeAt? (kind : TokenKind) (text : List Char) : Option (List Char) :=
  match kind with
  | name => longestRun? Text.isLetter text
  | blank => longestRun? Text.isBlank text
  | _ => glyphAt? kind.glyphs text

theorem isPrefix_of_lexemeAt? {kind : TokenKind} {text lexeme : List Char}
    (h : kind.lexemeAt? text = some lexeme) : lexeme <+: text := by
  cases kind
  case name =>
    rw [(longestRun?_eq_some_iff.mp h).1]
    exact List.takeWhile_prefix _
  case blank =>
    rw [(longestRun?_eq_some_iff.mp h).1]
    exact List.takeWhile_prefix _
  all_goals exact (mem_of_glyphAt? h).2

theorem spelling_of_lexemeAt? {kind : TokenKind} {text lexeme : List Char}
    (h : kind.lexemeAt? text = some lexeme) : kind.Spelling lexeme := by
  cases kind
  case name => exact ⟨(longestRun?_eq_some_iff.mp h).2, forall_of_longestRun? h⟩
  case blank => exact ⟨(longestRun?_eq_some_iff.mp h).2, forall_of_longestRun? h⟩
  all_goals exact (mem_of_glyphAt? h).1

theorem Spelling.ne_nil {kind : TokenKind} {lexeme : List Char} (h : kind.Spelling lexeme) :
    lexeme ≠ [] := by
  cases kind
  case name => exact h.1
  case blank => exact h.1
  all_goals
    rintro rfl
    simp [Spelling, glyphs] at h

/-- The first kind, in the given order, with a lexeme at the start of the text. -/
def firstLexeme? (order : List TokenKind) (text : List Char) : Option (TokenKind × List Char) :=
  order.findSome? fun kind => (kind.lexemeAt? text).map (kind, ·)

theorem lexemeAt?_of_firstLexeme? {order : List TokenKind} {text lexeme : List Char}
    {kind : TokenKind} (h : firstLexeme? order text = some (kind, lexeme)) :
    kind ∈ order ∧ kind.lexemeAt? text = some lexeme := by
  obtain ⟨tried, hmem, hfound⟩ := List.exists_of_findSome?_eq_some h
  obtain ⟨found, hlexeme, heq⟩ := Option.map_eq_some_iff.mp hfound
  obtain ⟨rfl, rfl⟩ := Prod.mk.inj heq
  exact ⟨hmem, hlexeme⟩

theorem ne_nil_of_firstLexeme? {order : List TokenKind} {text lexeme : List Char}
    {kind : TokenKind} (h : firstLexeme? order text = some (kind, lexeme)) : lexeme ≠ [] :=
  (spelling_of_lexemeAt? (lexemeAt?_of_firstLexeme? h).2).ne_nil

end TokenKind

end Propositional
