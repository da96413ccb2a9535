import Propositional.Proofs.Token.Lexeme
import Propositional.Token.Scanner

namespace Propositional

namespace TokenKind

variable {order order' : List TokenKind}

theorem firstLexeme?_congr (h : ∀ kind, kind ∈ order ↔ kind ∈ order') (text : List Char) :
    firstLexeme? order text = firstLexeme? order' text := by
  apply Option.ext
  rintro ⟨kind, lexeme⟩
  calc
    firstLexeme? order text = some (kind, lexeme) ↔
        kind ∈ order ∧ kind.lexemeAt? text = some lexeme := firstLexeme?_eq_some_iff
    _ ↔ kind ∈ order' ∧ kind.lexemeAt? text = some lexeme := by rw [h]
    _ ↔ firstLexeme? order' text = some (kind, lexeme) := firstLexeme?_eq_some_iff.symm

end TokenKind

namespace Scanner

variable {order order' : List TokenKind}

theorem nextBy_congr
    (h : ∀ text, TokenKind.firstLexeme? order text = TokenKind.firstLexeme? order' text)
    (s : Scanner) : s.nextBy order = s.nextBy order' := by
  fun_induction nextBy order s with
  | case1 s hfailed => rw [nextBy_eq, if_pos hfailed]
  | case2 s hfailed hhead => rw [nextBy_eq, if_neg hfailed, hhead]
  | case3 s hfailed c hhead hnone => rw [nextBy_eq, if_neg hfailed, hhead, ← h, hnone]
  | case4 s hfailed c hhead lexeme hfound ih =>
      rw [nextBy_eq order', if_neg hfailed, hhead, ← h, hfound]
      exact ih
  | case5 s hfailed c hhead kind lexeme hfound hkind =>
      rw [nextBy_eq, if_neg hfailed, hhead, ← h, hfound]
      exact (if_neg hkind).symm

theorem itemsBy_congr (h : ∀ s : Scanner, s.nextBy order = s.nextBy order') (s : Scanner) :
    s.itemsBy order = s.itemsBy order' := by
  fun_induction itemsBy order s with
  | case1 s hnone => rw [itemsBy_eq, ← h, hnone]
  | case2 s item hsome ih => rw [itemsBy_eq order', ← h, hsome, ih]

/-- One kind at most has a lexeme at the start of a text, and the lexeme is not empty. Hence a
scanner that tries the kinds in any other order answers every call alike, and it yields the same
items of every source. -/
theorem itemsBy_of_perm :
    (∀ (text : List Char) (kind : TokenKind) (lexeme : List Char),
      kind.lexemeAt? text = some lexeme →
        lexeme ≠ [] ∧ ∀ (kind' : TokenKind) (lexeme' : List Char),
          kind'.lexemeAt? text = some lexeme' → kind' = kind) ∧
    ∀ order : List TokenKind, order.Perm TokenKind.all →
      (∀ s : Scanner, s.nextBy order = s.next) ∧
        ∀ source, (start source).itemsBy order = scan source := by
  constructor
  · intro text kind lexeme hlexeme
    refine ⟨(TokenKind.spelling_of_lexemeAt? hlexeme).ne_nil, ?_⟩
    intro kind' lexeme' hlexeme'
    exact TokenKind.eq_of_lexemeAt? hlexeme' hlexeme
  · intro order hperm
    have hfirst := TokenKind.firstLexeme?_congr fun _ => hperm.mem_iff
    have hnext := nextBy_congr hfirst
    exact ⟨hnext, fun source => itemsBy_congr hnext (start source)⟩

theorem itemsBy_backwards :
    (TokenKind.conjunction.lexemeAt? ['/', '\\', 'p'] = some ['/', '\\'] ∧
        ∀ (kind : TokenKind) (lexeme : List Char),
          kind.lexemeAt? ['/', '\\', 'p'] = some lexeme → kind = .conjunction) ∧
      TokenKind.all.reverse.Perm TokenKind.all ∧
        (start "p/\\ \\").itemsBy TokenKind.all.reverse =
          [.token ⟨.name, "p", 0⟩, .token ⟨.conjunction, "/\\", 1⟩, .invalid ⟨'\\', 4⟩] := by
  obtain ⟨hlexemes, horders⟩ := itemsBy_of_perm
  have hfound : TokenKind.conjunction.lexemeAt? ['/', '\\', 'p'] = some ['/', '\\'] := by decide
  have hperm : TokenKind.all.reverse.Perm TokenKind.all := List.reverse_perm _
  refine ⟨⟨hfound, (hlexemes _ _ _ hfound).2⟩, hperm, ?_⟩
  rw [(horders _ hperm).2]
  decide +kernel

end Scanner

end Propositional
