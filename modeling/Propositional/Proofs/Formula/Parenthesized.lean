import Propositional.Formula

namespace Propositional

/-- What bears on reading in a token: its kind and, if it is a name, its lexeme. -/
inductive Sign where
  | name (lexeme : String)
  | mark (kind : TokenKind)
  deriving DecidableEq, Repr

def Token.sign (t : Token) : Sign :=
  if t.kind = .name then .name t.lexeme else .mark t.kind

/-- From a node to one of its operands. -/
inductive Side where
  | operand
  | left
  | right
  deriving DecidableEq, Repr

/-- How many pairs of parentheses stand around each node, found by the way to it from the root. -/
abbrev Pairs := List Side → Nat

namespace Pairs

def below (pairs : Pairs) (side : Side) : Pairs :=
  fun path => pairs (side :: path)

/-- Pairs around the root, and those of its operands. -/
def node (root : Nat) (operands : Side → Pairs) : Pairs
  | [] => root
  | side :: path => operands side path

end Pairs

def parenthesized : Nat → List Sign → List Sign
  | 0, w => w
  | n + 1, w => .mark .opening :: parenthesized n w ++ [.mark .closing]

namespace Formula

/-- The signs of a formula from left to right, with the given pairs around each node. -/
def written : Formula → Pairs → List Sign
  | atom name, pairs => parenthesized (pairs []) [.name name]
  | unary c operand, pairs =>
      parenthesized (pairs []) (.mark c.kind :: operand.written (pairs.below .operand))
  | binary left c right, pairs =>
      parenthesized (pairs [])
        (left.written (pairs.below .left) ++ .mark c.kind :: right.written (pairs.below .right))

/-- What is written of a formula between the parentheses around its root. -/
def inside : Formula → Pairs → List Sign
  | atom name, _ => [.name name]
  | unary c operand, pairs => .mark c.kind :: operand.written (pairs.below .operand)
  | binary left c right, pairs =>
      left.written (pairs.below .left) ++ .mark c.kind :: right.written (pairs.below .right)

/-- Without parentheses a binary node would be taken apart: by a negation before it, by a tighter
connective after it, or by a connective before it that is as tight. -/
inductive NeedsPair : Formula → List Side → Prop where
  | operand {u f c g} : NeedsPair (.unary u (.binary f c g)) [.operand]
  | left {f c g b h} (hlt : c.precedence < b.precedence) :
      NeedsPair (.binary (.binary f c g) b h) [.left]
  | right {h b f c g} (hle : c.precedence ≤ b.precedence) :
      NeedsPair (.binary h b (.binary f c g)) [.right]
  | belowOperand {u f path} (h : NeedsPair f path) : NeedsPair (.unary u f) (.operand :: path)
  | belowLeft {f b g path} (h : NeedsPair f path) : NeedsPair (.binary f b g) (.left :: path)
  | belowRight {f b g path} (h : NeedsPair g path) : NeedsPair (.binary f b g) (.right :: path)

/-- Every node that needs a pair has one. -/
def Sufficient (f : Formula) (pairs : Pairs) : Prop :=
  ∀ path, f.NeedsPair path → 0 < pairs path

end Formula

open Formula

theorem written_eq (f : Formula) (pairs : Pairs) :
    f.written pairs = parenthesized (pairs []) (f.inside pairs) := by
  cases f <;> rfl

theorem parenthesized_eq_replicate (n : Nat) (w : List Sign) :
    parenthesized n w =
      List.replicate n (.mark .opening) ++ (w ++ List.replicate n (.mark .closing)) := by
  induction n with
  | zero => simp [parenthesized]
  | succ n ih =>
      rw [parenthesized, ih, List.replicate_succ, List.replicate_succ']
      simp

theorem append_cons_inj_of_countP_eq {α : Type} {p : α → Bool} {u u' v v' : List α} {x x' : α}
    (hx : p x = true) (hx' : p x' = true) (hcount : u.countP p = u'.countP p)
    (h : u ++ x :: v = u' ++ x' :: v') : u = u' ∧ v = v' := by
  induction u generalizing u' with
  | nil =>
      rcases u' with _ | ⟨y, u'⟩
      · exact ⟨rfl, (List.cons.inj h).2⟩
      · obtain rfl : x = y := (List.cons.inj h).1
        simp [hx] at hcount
  | cons y u ih =>
      rcases u' with _ | ⟨y', u'⟩
      · obtain rfl : y = x' := (List.cons.inj h).1
        simp [hx'] at hcount
      · obtain ⟨rfl, hrest⟩ := List.cons.inj h
        rw [List.countP_cons, List.countP_cons, Nat.add_right_cancel_iff] at hcount
        obtain ⟨rfl, hv⟩ := ih hcount hrest
        exact ⟨rfl, hv⟩

/-- The opening parentheses less the closing ones. -/
def balance : List Sign → Int
  | [] => 0
  | .mark .opening :: w => balance w + 1
  | .mark .closing :: w => balance w - 1
  | _ :: w => balance w

@[simp] theorem balance_nil : balance [] = 0 := rfl

@[simp] theorem balance_opening (w : List Sign) :
    balance (.mark .opening :: w) = balance w + 1 := rfl

@[simp] theorem balance_closing (w : List Sign) :
    balance (.mark .closing :: w) = balance w - 1 := rfl

@[simp] theorem balance_name (name : String) (w : List Sign) :
    balance (.name name :: w) = balance w := rfl

@[simp] theorem balance_unary (c : UnaryConnective) (w : List Sign) :
    balance (.mark c.kind :: w) = balance w := by
  cases c
  rfl

@[simp] theorem balance_binary (c : BinaryConnective) (w : List Sign) :
    balance (.mark c.kind :: w) = balance w := by
  cases c <;> rfl

@[simp] theorem balance_append (u w : List Sign) : balance (u ++ w) = balance u + balance w := by
  fun_induction balance u with
  | case1 => simp
  | case2 u ih => simp only [List.cons_append, balance_opening, ih]; omega
  | case3 u ih => simp only [List.cons_append, balance_closing, ih]; omega
  | case4 x u hopening hclosing ih => rw [List.cons_append, balance, ih] <;> assumption

theorem balance_replicate (n : Nat) : balance (List.replicate n (.mark .opening)) = n := by
  induction n with
  | zero => rfl
  | succ n ih => rw [List.replicate_succ, balance_opening, ih, Int.natCast_succ]

@[simp] theorem balance_parenthesized (n : Nat) (w : List Sign) :
    balance (parenthesized n w) = balance w := by
  induction n with
  | zero => rfl
  | succ n ih =>
      rw [parenthesized, balance_append, balance_opening, balance_closing, balance_nil, ih]
      omega

@[simp] theorem balance_written (f : Formula) (pairs : Pairs) : balance (f.written pairs) = 0 := by
  induction f generalizing pairs with
  | atom name => simp [written]
  | unary c operand ih => simp [written, ih]
  | binary left c right ihLeft ihRight => simp [written, ihLeft, ihRight]

def Sign.isBinary : Sign → Bool
  | .mark .conjunction | .mark .disjunction | .mark .implication => true
  | _ => false

theorem isBinary_kind (c : BinaryConnective) : Sign.isBinary (.mark c.kind) = true := by
  cases c <;> rfl

theorem countP_isBinary_parenthesized (n : Nat) (w : List Sign) :
    (parenthesized n w).countP Sign.isBinary = w.countP Sign.isBinary := by
  simp [parenthesized_eq_replicate, List.countP_replicate, Sign.isBinary]

theorem countP_isBinary_written (f : Formula) (pairs pairs' : Pairs) :
    (f.written pairs).countP Sign.isBinary = (f.written pairs').countP Sign.isBinary := by
  induction f generalizing pairs pairs' with
  | atom name => simp only [written, countP_isBinary_parenthesized]
  | unary c operand ih =>
      simp only [written, countP_isBinary_parenthesized, List.countP_cons]
      rw [ih _ (pairs'.below .operand)]
  | binary left c right ihLeft ihRight =>
      simp only [written, countP_isBinary_parenthesized, List.countP_append, List.countP_cons]
      rw [ihLeft _ (pairs'.below .left), ihRight _ (pairs'.below .right)]

theorem parenthesized_inj_of_head {n n' : Nat} {x : Sign} {w w' : List Sign}
    (hx : x ≠ .mark .opening) (h : parenthesized n (x :: w) = parenthesized n' (x :: w')) :
    n = n' ∧ w = w' := by
  rw [parenthesized_eq_replicate, parenthesized_eq_replicate, List.cons_append,
    List.cons_append] at h
  obtain ⟨hopening, hrest⟩ :=
    append_cons_inj_of_countP_eq (p := fun y => y ≠ .mark .opening) (by simpa) (by simpa)
      (by simp [List.countP_replicate]) h
  have hn : n = n' := by simpa using congrArg List.length hopening
  subst hn
  exact ⟨rfl, List.append_cancel_right hrest⟩

theorem parenthesized_inj_of_balance {n n' : Nat} {x : Sign} {u u' v v' : List Sign}
    (hx : x.isBinary = true) (hcount : u.countP Sign.isBinary = u'.countP Sign.isBinary)
    (hbalance : balance u = balance u')
    (h : parenthesized n (u ++ x :: v) = parenthesized n' (u' ++ x :: v')) :
    n = n' ∧ u = u' ∧ v = v' := by
  rw [parenthesized_eq_replicate, parenthesized_eq_replicate, List.append_assoc,
    List.append_assoc, List.cons_append, List.cons_append, ← List.append_assoc,
    ← List.append_assoc] at h
  obtain ⟨hfront, hrest⟩ :=
    append_cons_inj_of_countP_eq (p := Sign.isBinary) hx hx
      (by simp [List.countP_replicate, Sign.isBinary, hcount]) h
  have hn : n = n' := by
    have hsum := congrArg balance hfront
    rw [balance_append, balance_append, balance_replicate, balance_replicate, hbalance] at hsum
    omega
  subst hn
  exact ⟨rfl, List.append_cancel_left hfront, List.append_cancel_right hrest⟩

theorem written_inj_of_binary {left right : Formula} {c : BinaryConnective} {pairs pairs' : Pairs}
    (h : (binary left c right).written pairs = (binary left c right).written pairs') :
    pairs [] = pairs' [] ∧
      left.written (pairs.below .left) = left.written (pairs'.below .left) ∧
      right.written (pairs.below .right) = right.written (pairs'.below .right) :=
  parenthesized_inj_of_balance (isBinary_kind c) (countP_isBinary_written left _ _) (by simp) h

theorem written_inj_of_unary {operand : Formula} {c : UnaryConnective} {pairs pairs' : Pairs}
    (h : (unary c operand).written pairs = (unary c operand).written pairs') :
    pairs [] = pairs' [] ∧
      operand.written (pairs.below .operand) = operand.written (pairs'.below .operand) := by
  have hc : Sign.mark c.kind ≠ .mark .opening := by
    cases c
    decide
  exact parenthesized_inj_of_head hc h

/-- Ways of writing a formula that cannot be told apart agree where a pair is needed. -/
theorem eq_of_written_eq {f : Formula} {pairs pairs' : Pairs}
    (h : f.written pairs = f.written pairs') {path : List Side} (hpath : f.NeedsPair path) :
    pairs path = pairs' path := by
  induction hpath generalizing pairs pairs' with
  | operand => exact (written_inj_of_binary (written_inj_of_unary h).2).1
  | left hlt => exact (written_inj_of_binary (written_inj_of_binary h).2.1).1
  | right hle => exact (written_inj_of_binary (written_inj_of_binary h).2.2).1
  | belowOperand hneeds ih => exact ih (written_inj_of_unary h).2
  | belowLeft hneeds ih => exact ih (written_inj_of_binary h).2.1
  | belowRight hneeds ih => exact ih (written_inj_of_binary h).2.2

end Propositional
