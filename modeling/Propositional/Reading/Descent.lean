import Propositional.Connective.Registry
import Propositional.Formula
import Propositional.Reading.Cursor

/-!
Reading formulas by recursive descent. A term is a name, a group in parentheses, or a unary
connective with a term as its operand. A formula is a term followed by a climb: a binary connective
is taken while its precedence exceeds the minimum of the climb, and its right operand is a term
extended by a climb whose minimum is that precedence. So tighter connectives end up in the right
operand, and connectives of one precedence group to the left.

Every successful call leaves a smaller cursor, except for a climb that takes nothing. This bound
travels with the outcomes of the recursion, which is why it needs no limit on depth.
-/

namespace Propositional.Reading

/-- Outcomes that leave a cursor of size below `bound` when they are successful. -/
abbrev Bounded (α : Type) (bound : Nat) : Type :=
  { o : Outcome α // ∀ value next, o = .ok value next → next.size < bound }

namespace Bounded

def ok {α : Type} {bound : Nat} (value : α) (next : Cursor) (h : next.size < bound) :
    Bounded α bound :=
  ⟨.ok value next, by rintro _ _ ⟨⟩; exact h⟩

def error {α : Type} {bound : Nat} (fault : ReadingError) (last : Cursor) : Bounded α bound :=
  ⟨.error fault last, by rintro _ _ ⟨⟩⟩

/-- Continue a successful outcome, knowing that its cursor is within the bound. -/
@[inline]
def andThen {α β : Type} {bound bound' : Nat} (o : Bounded α bound)
    (k : α → (next : Cursor) → next.size < bound → Bounded β bound') : Bounded β bound' :=
  match o with
  | ⟨.ok value next, h⟩ => k value next (h value next rfl)
  | ⟨.error fault last, _⟩ => error fault last

def weaken {α : Type} {bound bound' : Nat} (h : bound ≤ bound') (o : Bounded α bound) :
    Bounded α bound' :=
  ⟨o.val, fun value next heq => Nat.lt_of_lt_of_le (o.property value next heq) h⟩

@[simp] theorem val_ok {α : Type} {bound : Nat} (value : α) (next : Cursor)
    (h : next.size < bound) : (ok value next h).val = .ok value next := rfl

@[simp] theorem val_error {α : Type} {bound : Nat} (fault : ReadingError) (last : Cursor) :
    (error fault last : Bounded α bound).val = .error fault last := rfl

@[simp] theorem val_weaken {α : Type} {bound bound' : Nat} (h : bound ≤ bound')
    (o : Bounded α bound) : (o.weaken h).val = o.val := rfl

@[simp] theorem val_andThen {α β : Type} {bound bound' : Nat} (o : Bounded α bound)
    (k : α → (next : Cursor) → next.size < bound → Bounded β bound')
    (k' : α → Cursor → Outcome β) (hk : ∀ value next h, (k value next h).val = k' value next) :
    (o.andThen k).val = o.val.bind k' := by
  obtain ⟨_ | _, h⟩ := o
  · exact hk ..
  · rfl

end Bounded

/-- Replace a lookahead token by the next answer. -/
def pullBounded (c : Cursor) (h : c.lookahead.isSome = true) : Bounded Unit c.size :=
  ⟨c.pull, fun _ _ heq => Cursor.size_lt_of_pull h heq⟩

def acceptBounded (c : Cursor) (t : Token) (h : c.lookahead.isSome = true) :
    Bounded Unit c.size :=
  ⟨c.accept t, fun _ _ heq => Cursor.size_lt_of_accept h heq⟩

/-- A closing parenthesis is due: accept it, and answer `f`. -/
def closeBounded (f : Formula) (c : Cursor) : Bounded Formula c.size :=
  match h : c.lookahead with
  | some t =>
      if t.kind = .closing then
        (acceptBounded c t (by simp [h])).andThen fun _ next hnext => .ok f next hnext
      else .error (.misplaced ⟨some t, some .closing⟩) c
  | none => .error (.misplaced ⟨none, some .closing⟩) c

theorem binary?_isSome {registry : Registry} {lookahead : Option Token} {b : BinaryConnective}
    (h : registry.binary? lookahead = some b) : lookahead.isSome = true := by
  cases lookahead with
  | none => cases h
  | some _ => rfl

mutual

def termBounded (registry : Registry) (c : Cursor) : Bounded Formula c.size :=
  match h : c.lookahead with
  | none => .error (.misplaced ⟨none, none⟩) c
  | some t =>
      have hsome : c.lookahead.isSome = true := by simp [h]
      if t.kind = .name then
        (acceptBounded c t hsome).andThen fun _ next hnext => .ok (.atom t.lexeme) next hnext
      else if t.kind = .opening then
        (acceptBounded c t hsome).andThen fun _ next hnext =>
          (groupBounded registry next).weaken (Nat.le_of_lt hnext)
      else
        match registry.unary? (some t) with
        | some u => negationBounded registry u c hsome
        | none => .error (.misplaced ⟨some t, none⟩) c
termination_by 4 * c.size + 1

def groupBounded (registry : Registry) (c : Cursor) : Bounded Formula c.size :=
  (formulaBounded registry c).andThen fun f next hnext =>
    (closeBounded f next).weaken (Nat.le_of_lt hnext)
termination_by 4 * c.size + 3

def negationBounded (registry : Registry) (u : UnaryConnective) (c : Cursor)
    (h : c.lookahead.isSome = true) : Bounded Formula c.size :=
  (pullBounded c h).andThen fun _ next hnext =>
    (termBounded registry next).andThen fun operand last hlast =>
      .ok (.unary u operand) last (Nat.lt_trans hlast hnext)
termination_by 4 * c.size + 0

def formulaBounded (registry : Registry) (c : Cursor) : Bounded Formula c.size :=
  (termBounded registry c).andThen fun left next hnext =>
    (climbBounded registry left 0 next).weaken hnext
termination_by 4 * c.size + 2

def climbBounded (registry : Registry) (left : Formula) (minimum : Nat) (c : Cursor) :
    Bounded Formula (c.size + 1) :=
  match h : registry.binary? c.lookahead with
  | none => .ok left c (Nat.lt_succ_self _)
  | some b =>
      if minimum < b.precedence then
        (pullBounded c (binary?_isSome h)).andThen fun _ c₁ h₁ =>
          (termBounded registry c₁).andThen fun term c₂ h₂ =>
            (climbBounded registry term b.precedence c₂).andThen fun right c₃ h₃ =>
              (climbBounded registry (.binary left b right) minimum
                (c₃.note (.joined b minimum))).weaken (by simp only [Cursor.size_note]; omega)
      else .ok left c (Nat.lt_succ_self _)
termination_by 4 * c.size + 0

end

/-- Accept a closing parenthesis and answer `f`. -/
def close (f : Formula) (c : Cursor) : Outcome Formula :=
  (closeBounded f c).val

/-- Read a name, a group, or a unary connective and its operand. -/
def term (registry : Registry) (c : Cursor) : Outcome Formula :=
  (termBounded registry c).val

/-- Read the rest of a group whose opening parenthesis has been accepted. -/
def group (registry : Registry) (c : Cursor) : Outcome Formula :=
  (groupBounded registry c).val

/-- Read a term followed by any number of binary connectives and operands. -/
def formula (registry : Registry) (c : Cursor) : Outcome Formula :=
  (formulaBounded registry c).val

/-- Extend `left` by the binary connectives ahead whose precedence exceeds the minimum. -/
def climb (registry : Registry) (left : Formula) (minimum : Nat) (c : Cursor) :
    Outcome Formula :=
  (climbBounded registry left minimum c).val

theorem close_eq (f : Formula) (c : Cursor) :
    close f c =
      match c.lookahead with
      | some t =>
          if t.kind = .closing then (c.accept t).bind fun _ next => .ok f next
          else .error (.misplaced ⟨some t, some .closing⟩) c
      | none => .error (.misplaced ⟨none, some .closing⟩) c := by
  unfold close closeBounded
  split
  · next t h =>
      conv => rhs; rw [h]
      dsimp only
      split
      · exact Bounded.val_andThen _ _ _ fun _ _ _ => rfl
      · rfl
  · next h =>
      conv => rhs; rw [h]
      rfl

theorem term_eq (registry : Registry) (c : Cursor) :
    term registry c =
      match c.lookahead with
      | none => .error (.misplaced ⟨none, none⟩) c
      | some t =>
          if t.kind = .name then (c.accept t).bind fun _ next => .ok (.atom t.lexeme) next
          else if t.kind = .opening then (c.accept t).bind fun _ next => group registry next
          else
            match registry.unary? (some t) with
            | some u =>
                c.pull.bind fun _ next =>
                  (term registry next).bind fun operand last => .ok (.unary u operand) last
            | none => .error (.misplaced ⟨some t, none⟩) c := by
  unfold term
  rw [termBounded]
  split
  · next h =>
      conv => rhs; rw [h]
      rfl
  · next t h =>
      conv => rhs; rw [h]
      dsimp only
      split
      · exact Bounded.val_andThen _ _ _ fun _ _ _ => rfl
      · split
        · exact Bounded.val_andThen _ _ _ fun _ _ _ => rfl
        · split
          · rw [negationBounded]
            exact Bounded.val_andThen _ _ _ fun _ _ _ =>
              Bounded.val_andThen _ _ _ fun _ _ _ => rfl
          · rfl

theorem group_eq (registry : Registry) (c : Cursor) :
    group registry c = (formula registry c).bind close := by
  unfold group
  rw [groupBounded]
  exact Bounded.val_andThen _ _ _ fun _ _ _ => rfl

theorem formula_eq (registry : Registry) (c : Cursor) :
    formula registry c = (term registry c).bind fun left next => climb registry left 0 next := by
  unfold formula
  rw [formulaBounded]
  exact Bounded.val_andThen _ _ _ fun _ _ _ => rfl

theorem climb_eq (registry : Registry) (left : Formula) (minimum : Nat) (c : Cursor) :
    climb registry left minimum c =
      match registry.binary? c.lookahead with
      | none => .ok left c
      | some b =>
          if minimum < b.precedence then
            c.pull.bind fun _ c₁ =>
              (term registry c₁).bind fun operand c₂ =>
                (climb registry operand b.precedence c₂).bind fun right c₃ =>
                  climb registry (.binary left b right) minimum (c₃.note (.joined b minimum))
          else .ok left c := by
  unfold climb
  rw [climbBounded]
  split
  · next h =>
      conv => rhs; rw [h]
      rfl
  · next b h =>
      conv => rhs; rw [h]
      dsimp only
      split
      · exact Bounded.val_andThen _ _ _ fun _ _ _ =>
          Bounded.val_andThen _ _ _ fun _ _ _ =>
            Bounded.val_andThen _ _ _ fun _ _ _ => rfl
      · rfl

end Propositional.Reading
