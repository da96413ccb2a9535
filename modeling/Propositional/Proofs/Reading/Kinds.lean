import Propositional.Proofs.Reading.Grammar
import Propositional.Proofs.Reading.Lazy
import Propositional.Proofs.Reading.Parametric
import Propositional.Proofs.Token.Tiling

namespace Propositional

/-- The formulas differ at most in the names of their atoms. -/
inductive Formula.SameShape : Formula → Formula → Prop where
  | atom (name name' : String) : SameShape (.atom name) (.atom name')
  | unary (u : UnaryConnective) {f f'} (hf : SameShape f f') :
      SameShape (.unary u f) (.unary u f')
  | binary (b : BinaryConnective) {f f' g g'} (hf : SameShape f f') (hg : SameShape g g') :
      SameShape (.binary f b g) (.binary f' b g')

namespace Feed

/-- The answers are tokens of one kind, or both are invalid characters, or both are that there is no
more. -/
inductive Alike : Option Item → Option Item → Prop where
  | token {t t' : Token} (hkind : t.kind = t'.kind) : Alike (some (.token t)) (some (.token t'))
  | invalid (fault fault' : InvalidCharacter) :
      Alike (some (.invalid fault)) (some (.invalid fault'))
  | noMore : Alike none none

end Feed

namespace Reading

open Feed (Alike)

variable {registry : Registry} {feed feed' : Feed}

theorem preserved_sameShape : Preserved Formula.SameShape where
  unary := fun u _ _ hf => .unary u hf
  binary := fun b _ _ _ _ hf hg => .binary b hf hg

theorem tokenRelated_of_kind_eq {t t' : Token} (h : t.kind = t'.kind) :
    TokenRelated Formula.SameShape t t' :=
  ⟨h, fun _ => .atom t.lexeme t'.lexeme⟩

theorem tokens_related_of_alike (h : List.Forall₂ Alike feed feed') :
    List.Forall₂ (TokenRelated Formula.SameShape) feed.tokens feed'.tokens := by
  induction h with
  | nil => exact .nil
  | cons hanswer hrest ih =>
      cases hanswer with
      | token hkind => exact .cons (tokenRelated_of_kind_eq hkind) ih
      | invalid fault fault' => exact .nil
      | noMore => exact .nil

theorem fault?_of_alike (h : List.Forall₂ Alike feed feed') :
    feed.fault? = none ∧ feed'.fault? = none ∨
      ∃ fault fault', feed.fault? = some fault ∧ feed'.fault? = some fault' := by
  induction h with
  | nil => exact .inl ⟨rfl, rfl⟩
  | cons hanswer hrest ih =>
      cases hanswer with
      | token hkind => exact ih
      | invalid fault fault' => exact .inr ⟨fault, fault', rfl, rfl⟩
      | noMore => exact .inl ⟨rfl, rfl⟩

theorem asked_of_alike {s s' : Stage} (hs : s.Related Formula.SameShape s')
    (h : List.Forall₂ Alike feed feed') : s.asked registry feed = s'.asked registry feed' := by
  induction h generalizing s s' with
  | nil => rfl
  | cons hanswer hrest ih =>
      cases hanswer with
      | token hkind =>
          rcases step_related registry preserved_sameShape hs (tokenRelated_of_kind_eq hkind) with
            ⟨next, next', hstep, hstep', hnext⟩ | ⟨expected, hstep, hstep'⟩
          · rw [asked_of_ok hstep, asked_of_ok hstep', ih hnext]
          · rw [asked_of_error hstep, asked_of_error hstep']
      | invalid fault fault' => rfl
      | noMore => rfl

theorem pullCount_of_alike (h : List.Forall₂ Alike feed feed') :
    pullCount registry feed = pullCount registry feed' := by
  rw [pullCount_eq, pullCount_eq]
  exact asked_of_alike related_start h

theorem result_of_steps_ok {s : Stage} (h : Stage.start.steps registry feed.tokens = .ok s) :
    (ofFeed registry feed).result = s.answer feed.fault? := by
  rw [result_ofFeed, h]

theorem result_of_steps_error {fault : SyntaxError}
    (h : Stage.start.steps registry feed.tokens = .error fault) :
    (ofFeed registry feed).result = .error (.misplaced fault) := by
  rw [result_ofFeed, h]

theorem leaves_of_result {f : Formula} (h : (ofFeed registry feed).result = .ok f) :
    f.leaves = nameLexemes feed.tokens := by
  rcases hsteps : Stage.start.steps registry feed.tokens with fault | s
  · rw [result_of_steps_error hsteps] at h
    contradiction
  · rw [result_of_steps_ok hsteps] at h
    rcases hfault : feed.fault? with _ | fault
    · rw [hfault, answer_none_eq_ok_iff] at h
      exact leaves_of_derives (steps_iff_derives.mp ⟨s, hsteps, h⟩)
    · rw [hfault] at h
      contradiction

theorem answer_of_invalid {i : Nat} {fault : InvalidCharacter}
    (hcount : pullCount registry feed = i + 1)
    (h : (ofFeed registry feed).result = .error (.invalid fault)) :
    feed.answer i = some (.invalid fault) := by
  have haccounts := accounts_ofFeed registry feed
  rw [h, hcount] at haccounts
  obtain ⟨hanswer, hfirst⟩ := haccounts
  rw [Nat.add_right_cancel hfirst]
  exact hanswer

theorem answer_of_refused {i : Nat} {t : Token} {expected : Option TokenKind}
    (hcount : pullCount registry feed = i + 1)
    (h : (ofFeed registry feed).result = .error (.misplaced ⟨some t, expected⟩)) :
    feed.answer i = some (.token t) := by
  have haccounts := accounts_ofFeed registry feed
  rw [h, hcount] at haccounts
  exact haccounts.1

/-- The results of two feeds differ only in what the tokens bring with them: the leaves of a formula
are the names of its own feed, in order and none left out, and an error is found at one place `i` of
both feeds, or at the end of both. -/
inductive ResultsAlike (feed feed' : Feed) (i : Nat) :
    Except ReadingError Formula → Except ReadingError Formula → Prop where
  | formulas {f f' : Formula} (hshape : f.SameShape f')
      (hleaves : f.leaves = nameLexemes feed.tokens)
      (hleaves' : f'.leaves = nameLexemes feed'.tokens) :
      ResultsAlike feed feed' i (.ok f) (.ok f')
  | invalid {fault fault' : InvalidCharacter}
      (hfault : feed.answer i = some (.invalid fault))
      (hfault' : feed'.answer i = some (.invalid fault')) :
      ResultsAlike feed feed' i (.error (.invalid fault)) (.error (.invalid fault'))
  | refused {t t' : Token} (expected : Option TokenKind)
      (ht : feed.answer i = some (.token t)) (ht' : feed'.answer i = some (.token t')) :
      ResultsAlike feed feed' i (.error (.misplaced ⟨some t, expected⟩))
        (.error (.misplaced ⟨some t', expected⟩))
  | ended (expected : Option TokenKind) :
      ResultsAlike feed feed' i (.error (.misplaced ⟨none, expected⟩))
        (.error (.misplaced ⟨none, expected⟩))

/-- Equally many answers are asked of both feeds, and the results are alike; an error that has a
place is at the answer asked for last. -/
def ReadAlike (registry : Registry) (feed feed' : Feed) : Prop :=
  ∃ i, pullCount registry feed = i + 1 ∧ pullCount registry feed' = i + 1 ∧
    ResultsAlike feed feed' i (ofFeed registry feed).result (ofFeed registry feed').result

theorem resultsAlike_of_alike {i : Nat} (h : List.Forall₂ Alike feed feed')
    (hcount : pullCount registry feed = i + 1) (hcount' : pullCount registry feed' = i + 1) :
    ResultsAlike feed feed' i (ofFeed registry feed).result (ofFeed registry feed').result := by
  rcases steps_related registry preserved_sameShape related_start (tokens_related_of_alike h) with
    ⟨last, last', hlast, hlast', hrelated⟩ | ⟨j, t, t', expected, -, -, hrefused, hrefused'⟩
  · have hresult := result_of_steps_ok hlast
    have hresult' := result_of_steps_ok hlast'
    rcases fault?_of_alike h with ⟨hnone, hnone'⟩ | ⟨fault, fault', hfault, hfault'⟩
    · rw [hnone] at hresult
      rw [hnone'] at hresult'
      rcases finish_related preserved_sameShape hrelated with
        ⟨f, f', hf, hf', hshape⟩ | ⟨expected, hend, hend'⟩
      · rw [answer_none_of_ok hf] at hresult
        rw [answer_none_of_ok hf'] at hresult'
        rw [hresult, hresult']
        exact .formulas hshape (leaves_of_result hresult) (leaves_of_result hresult')
      · rw [hresult, answer_none_of_error hend, hresult', answer_none_of_error hend']
        exact .ended expected
    · rw [hfault] at hresult
      rw [hfault'] at hresult'
      rw [hresult, hresult']
      exact .invalid (answer_of_invalid hcount hresult) (answer_of_invalid hcount' hresult')
  · have hresult := result_of_steps_error hrefused
    have hresult' := result_of_steps_error hrefused'
    rw [hresult, hresult']
    exact .refused expected (answer_of_refused hcount hresult) (answer_of_refused hcount' hresult')

theorem readAlike_of_alike (registry : Registry) (h : List.Forall₂ Alike feed feed') :
    ReadAlike registry feed feed' := by
  have hpos : 0 < pullCount registry feed := by
    rw [pullCount_eq]
    exact asked_pos ..
  obtain ⟨i, hi⟩ := Nat.exists_eq_add_one_of_ne_zero (Nat.ne_of_gt hpos)
  have hi' : pullCount registry feed' = i + 1 := (pullCount_of_alike h).symm.trans hi
  exact ⟨i, hi, hi', resultsAlike_of_alike h hi hi'⟩

theorem alike_tokens {words words' : List Word} (h : words.map Word.kind = words'.map Word.kind)
    (position position' : Nat) :
    List.Forall₂ Alike ((Layout.tokens position words).map fun t => some (.token t))
      ((Layout.tokens position' words').map fun t => some (.token t)) := by
  induction words generalizing words' position position' with
  | nil =>
      obtain rfl : words' = [] := List.map_eq_nil_iff.mp h.symm
      exact .nil
  | cons w rest ih =>
      obtain ⟨v, rest', rfl, hkind, hrest⟩ := List.map_eq_cons_iff.mp h.symm
      exact .cons (.token hkind.symm) (ih hrest.symm _ _)

theorem sourceFeed_of_tiles {source : String} {words : List Word} {last : List Char}
    (h : Tiles source.toList words last []) :
    sourceFeed source = (Layout.tokens 0 words).map fun t => some (.token t) := by
  rw [sourceFeed, scan_of_tiles h, List.map_map]
  rfl

/-- Two feeds that have tokens of the same kinds, invalid characters and ends at the same places are
read alike. So are two sources made of words of the same kinds, whatever the spelling of the words
and the blanks around them. -/
theorem read_by_kinds (registry : Registry) :
    (∀ feed feed' : Feed, List.Forall₂ Alike feed feed' → ReadAlike registry feed feed') ∧
      ∀ (source source' : String) (words words' : List Word) (last last' : List Char),
        Tiles source.toList words last [] → Tiles source'.toList words' last' [] →
          words.map Word.kind = words'.map Word.kind →
            ReadAlike registry (sourceFeed source) (sourceFeed source') := by
  constructor
  · intro feed feed' h
    exact readAlike_of_alike registry h
  · intro source source' words words' last last' htiles htiles' hkinds
    apply readAlike_of_alike registry
    rw [sourceFeed_of_tiles htiles, sourceFeed_of_tiles htiles']
    exact alike_tokens hkinds 0 0

theorem read_by_kinds_of_synonyms :
    let feed : Feed := [some (.token ⟨.negation, "~", 0⟩), some (.invalid ⟨'$', 1⟩)]
    let feed' : Feed := [some (.token ⟨.negation, "¬", 3⟩), some (.invalid ⟨'%', 9⟩)]
    (ReadAlike Registry.standard feed feed' ∧
        pullCount Registry.standard feed = 2 ∧ pullCount Registry.standard feed' = 2 ∧
        (ofFeed Registry.standard feed).result = .error (.invalid ⟨'$', 1⟩) ∧
        (ofFeed Registry.standard feed').result = .error (.invalid ⟨'%', 9⟩)) ∧
      (ReadAlike Registry.standard (sourceFeed "p /\\ ~q") (sourceFeed "ψ∧¬r ") ∧
        Formula.read "p /\\ ~q" =
          .ok (.binary (.atom "p") .conjunction (.unary .negation (.atom "q"))) ∧
        Formula.read "ψ∧¬r " =
          .ok (.binary (.atom "ψ") .conjunction (.unary .negation (.atom "r")))) ∧
      ReadAlike Registry.standard (sourceFeed "(p q") (sourceFeed "( ψ  r") ∧
        Formula.read "(p q" = .error (.misplaced ⟨some ⟨.name, "q", 3⟩, some .closing⟩) ∧
        Formula.read "( ψ  r" = .error (.misplaced ⟨some ⟨.name, "r", 5⟩, some .closing⟩) := by
  intro feed feed'
  obtain ⟨hfeeds, hsources⟩ := read_by_kinds Registry.standard
  refine ⟨⟨?_, by decide +kernel, by decide +kernel, by decide +kernel, by decide +kernel⟩,
    ⟨?_, by decide +kernel, by decide +kernel⟩, ?_, by decide +kernel, by decide +kernel⟩
  · apply hfeeds
    exact .cons (.token rfl) (.cons (.invalid _ _) .nil)
  · have hspaced : Tiles "p /\\ ~q".toList [⟨[], .name, ['p']⟩, ⟨[' '], .conjunction, ['/', '\\']⟩,
        ⟨[' '], .negation, ['~']⟩, ⟨[], .name, ['q']⟩] [] [] :=
      ⟨by decide +kernel, by decide +kernel, by decide, by decide, TokenKind.stuck_nil⟩
    have hdense : Tiles "ψ∧¬r ".toList [⟨[], .name, ['ψ']⟩, ⟨[], .conjunction, ['∧']⟩,
        ⟨[], .negation, ['¬']⟩, ⟨[], .name, ['r']⟩] [' '] [] :=
      ⟨by decide +kernel, by decide +kernel, by decide, by decide, TokenKind.stuck_nil⟩
    exact hsources _ _ _ _ _ _ hspaced hdense rfl
  · have hnarrow : Tiles "(p q".toList [⟨[], .opening, ['(']⟩, ⟨[], .name, ['p']⟩,
        ⟨[' '], .name, ['q']⟩] [] [] :=
      ⟨by decide +kernel, by decide +kernel, by decide, by decide, TokenKind.stuck_nil⟩
    have hwide : Tiles "( ψ  r".toList [⟨[], .opening, ['(']⟩, ⟨[' '], .name, ['ψ']⟩,
        ⟨[' ', ' '], .name, ['r']⟩] [] [] :=
      ⟨by decide +kernel, by decide +kernel, by decide, by decide, TokenKind.stuck_nil⟩
    exact hsources _ _ _ _ _ _ hnarrow hwide rfl

end Reading

end Propositional
