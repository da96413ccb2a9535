import Mathlib.Data.List.Forall2
import Propositional.Proofs.Formula.Parenthesized

/-!
The order in which the binary nodes of a formula are joined: each after its operands, the left
operand before the right one. A node is joined in a climb, whose minimum is zero inside a group and
is the precedence of the connective in a right operand. So the minimum at a node is the precedence
of the nearest connective that has the node in its right operand with no parentheses in between.
-/

namespace Propositional

/-- A connective that joins two operands, and the minimum of the climb that takes it. -/
structure Join where
  connective : BinaryConnective
  minimum : Nat
  deriving DecidableEq, Repr

structure BinaryNode where
  path : List Side
  connective : BinaryConnective
  deriving DecidableEq, Repr

namespace BinaryNode

/-- The node of an operand as a node of the formula. -/
def below (side : Side) (node : BinaryNode) : BinaryNode :=
  ⟨side :: node.path, node.connective⟩

end BinaryNode

/-- The minimum inside the parentheses around the root, if there are any. -/
def Pairs.inside (pairs : Pairs) (m : Nat) : Nat :=
  if pairs [] = 0 then m else 0

@[simp] theorem Pairs.inside_zero (pairs : Pairs) : pairs.inside 0 = 0 := ite_self 0

/-- The path ends in the right operand of the node at `above`. No parentheses stand around that
operand, nor around any node on the way from it to the end of the path. -/
def OpenTo (pairs : Pairs) (above path : List Side) : Prop :=
  ∃ below, path = above ++ .right :: below ∧
    ∀ mid, mid <+: below → pairs (above ++ .right :: mid) = 0

theorem not_openTo_nil (pairs : Pairs) (above : List Side) : ¬ OpenTo pairs above [] := by
  rintro ⟨below, hpath, -⟩
  simp at hpath

theorem openTo_nil_iff {pairs : Pairs} {side : Side} {path : List Side} :
    OpenTo pairs [] (side :: path) ↔
      side = .right ∧ ∀ mid, mid <+: path → pairs (.right :: mid) = 0 := by
  constructor
  · rintro ⟨below, hpath, hbare⟩
    obtain ⟨rfl, rfl⟩ := List.cons.inj hpath
    exact ⟨rfl, hbare⟩
  · rintro ⟨rfl, hbare⟩
    exact ⟨path, rfl, hbare⟩

theorem openTo_cons_iff {pairs : Pairs} {side side' : Side} {above path : List Side} :
    OpenTo pairs (side :: above) (side' :: path) ↔
      side = side' ∧ OpenTo (pairs.below side) above path := by
  constructor
  · rintro ⟨below, hpath, hbare⟩
    obtain ⟨rfl, rfl⟩ := List.cons.inj hpath
    exact ⟨rfl, below, rfl, hbare⟩
  · rintro ⟨rfl, below, rfl, hbare⟩
    exact ⟨below, rfl, hbare⟩

theorem not_openTo_cons {pairs : Pairs} {side : Side} {path : List Side}
    (hroot : ¬ OpenTo pairs [] (side :: path))
    (hnone : ∀ above, ¬ OpenTo (pairs.below side) above path) :
    ∀ above, ¬ OpenTo pairs above (side :: path) := by
  rintro (_ | ⟨side', above⟩) hopen
  · exact hroot hopen
  · obtain ⟨rfl, hbelow⟩ := openTo_cons_iff.mp hopen
    exact hnone above hbelow

theorem length_le_of_openTo_cons {pairs : Pairs} {side : Side} {path : List Side} {n : Nat}
    (hnearest : ∀ other, OpenTo (pairs.below side) other path → other.length ≤ n) :
    ∀ other, OpenTo pairs other (side :: path) → other.length ≤ n + 1 := by
  rintro (_ | ⟨side', other⟩) hopen
  · exact Nat.zero_le _
  · obtain ⟨rfl, hbelow⟩ := openTo_cons_iff.mp hopen
    exact Nat.succ_le_succ (hnearest other hbelow)

namespace Formula

/-- The part of the formula at the end of a path from the root. -/
def at? : Formula → List Side → Option Formula
  | f, [] => some f
  | unary _ operand, .operand :: path => operand.at? path
  | binary left _ _, .left :: path => left.at? path
  | binary _ _ right, .right :: path => right.at? path
  | _, _ :: _ => none

/-- The binary nodes, each after its operands and the left operand before the right. -/
def binaryNodes : Formula → List BinaryNode
  | atom _ => []
  | unary _ operand => operand.binaryNodes.map (.below .operand)
  | binary left c right =>
      left.binaryNodes.map (.below .left) ++ right.binaryNodes.map (.below .right) ++ [⟨[], c⟩]

/-- The joins of a formula that is written with these pairs, read by a climb of this minimum. -/
def joins : Formula → Pairs → Nat → List Join
  | atom _, _, _ => []
  | unary _ operand, pairs, m => operand.joins (pairs.below .operand) (pairs.inside m)
  | binary left c right, pairs, m =>
      left.joins (pairs.below .left) (pairs.inside m) ++
        right.joins (pairs.below .right) c.precedence ++ [⟨c, pairs.inside m⟩]

/-- The minimum at the end of a path is the precedence of the nearest connective that has the node
there openly in its right operand. Without such a connective it is zero inside parentheses, and
outside of all of them it is the minimum of the climb around the whole formula. -/
inductive ClimbMinimum (around : Nat) (f : Formula) (pairs : Pairs) (path : List Side) :
    Nat → Prop where
  | nearest {above left c right} (hnode : f.at? above = some (.binary left c right))
      (hopen : OpenTo pairs above path)
      (hnearest : ∀ other, OpenTo pairs other path → other.length ≤ above.length) :
      ClimbMinimum around f pairs path c.precedence
  | group (hnone : ∀ above, ¬ OpenTo pairs above path)
      (hpair : ∃ mid, mid <+: path ∧ pairs mid ≠ 0) : ClimbMinimum around f pairs path 0
  | around (hnone : ∀ above, ¬ OpenTo pairs above path)
      (hbare : ∀ mid, mid <+: path → pairs mid = 0) : ClimbMinimum around f pairs path around

namespace ClimbMinimum

variable {f g : Formula} {pairs : Pairs} {path : List Side} {side : Side} {m k : Nat}

theorem root (f : Formula) (pairs : Pairs) (m : Nat) :
    ClimbMinimum m f pairs [] (pairs.inside m) := by
  rw [Pairs.inside]
  split
  · next hbare =>
      refine .around (not_openTo_nil pairs) fun mid hmid => ?_
      rw [List.prefix_nil.mp hmid, hbare]
  · next hpair => exact .group (not_openTo_nil pairs) ⟨[], List.prefix_refl [], hpair⟩

theorem below (hside : side ≠ .right) (hat : ∀ p, f.at? (side :: p) = g.at? p)
    (h : ClimbMinimum (pairs.inside m) g (pairs.below side) path k) :
    ClimbMinimum m f pairs (side :: path) k := by
  have hroot : ¬ OpenTo pairs [] (side :: path) := fun hopen => hside (openTo_nil_iff.mp hopen).1
  cases h with
  | @nearest above left c right hnode hopen hnearest =>
      exact .nearest ((hat above).trans hnode) (openTo_cons_iff.mpr ⟨rfl, hopen⟩)
        (length_le_of_openTo_cons hnearest)
  | group hnone hpair =>
      obtain ⟨mid, hmid, hpair⟩ := hpair
      exact .group (not_openTo_cons hroot hnone)
        ⟨side :: mid, List.cons_prefix_cons.mpr ⟨rfl, hmid⟩, hpair⟩
  | around hnone hbare =>
      rw [Pairs.inside]
      split
      · next hzero =>
          refine .around (not_openTo_cons hroot hnone) fun mid hmid => ?_
          rcases List.prefix_cons_iff.mp hmid with rfl | ⟨mid, rfl, hbelow⟩
          · exact hzero
          · exact hbare mid hbelow
      · next hpair =>
          exact .group (not_openTo_cons hroot hnone) ⟨[], List.nil_prefix, hpair⟩

theorem below_right {left right : Formula} {c : BinaryConnective}
    (h : ClimbMinimum c.precedence right (pairs.below .right) path k) :
    ClimbMinimum m (.binary left c right) pairs (.right :: path) k := by
  cases h with
  | @nearest above l d r hnode hopen hnearest =>
      have hopen' : OpenTo pairs (.right :: above) (.right :: path) :=
        openTo_cons_iff.mpr ⟨rfl, hopen⟩
      have hnode' : (binary left c right).at? (.right :: above) = some (.binary l d r) := hnode
      exact .nearest hnode' hopen' (length_le_of_openTo_cons hnearest)
  | group hnone hpair =>
      obtain ⟨mid, hmid, hpair⟩ := hpair
      have hroot : ¬ OpenTo pairs [] (.right :: path) := fun hopen =>
        hpair ((openTo_nil_iff.mp hopen).2 mid hmid)
      exact .group (not_openTo_cons hroot hnone)
        ⟨.right :: mid, List.cons_prefix_cons.mpr ⟨rfl, hmid⟩, hpair⟩
  | around hnone hbare =>
      have hopen : OpenTo pairs [] (.right :: path) := openTo_nil_iff.mpr ⟨rfl, hbare⟩
      refine .nearest rfl hopen ?_
      rintro (_ | ⟨side, other⟩) hother
      · exact Nat.le_refl _
      · obtain ⟨rfl, hbelow⟩ := openTo_cons_iff.mp hother
        exact (hnone other hbelow).elim

theorem unique (h : ClimbMinimum m f pairs path k) {k' : Nat}
    (h' : ClimbMinimum m f pairs path k') : k = k' := by
  cases h with
  | @nearest above left c right hnode hopen hnearest =>
      cases h' with
      | @nearest above' left' c' right' hnode' hopen' hnearest' =>
          have hlength : above.length = above'.length :=
            Nat.le_antisymm (hnearest' above hopen) (hnearest above' hopen')
          obtain ⟨below, hpath, -⟩ := hopen
          obtain ⟨below', hpath', -⟩ := hopen'
          obtain ⟨rfl, -⟩ := List.append_inj (hpath.symm.trans hpath') hlength
          rw [hnode] at hnode'
          cases hnode'
          rfl
      | group hnone | around hnone => exact (hnone above hopen).elim
  | group hnone hpair =>
      cases h' with
      | nearest _ hopen => exact (hnone _ hopen).elim
      | group => rfl
      | around _ hbare =>
          obtain ⟨mid, hmid, hpair⟩ := hpair
          exact (hpair (hbare mid hmid)).elim
  | around hnone hbare =>
      cases h' with
      | nearest _ hopen => exact (hnone _ hopen).elim
      | group _ hpair =>
          obtain ⟨mid, hmid, hpair⟩ := hpair
          exact (hpair (hbare mid hmid)).elim
      | around => rfl

end ClimbMinimum

/-- The join is the one of the node: it has the connective of the node, and the minimum there. -/
def IsJoined (m : Nat) (f : Formula) (pairs : Pairs) (node : BinaryNode) (join : Join) : Prop :=
  join.connective = node.connective ∧ ClimbMinimum m f pairs node.path join.minimum

theorem isJoined_below {f g : Formula} {pairs : Pairs} {side : Side} {m : Nat}
    (hside : side ≠ .right) (hat : ∀ p, f.at? (side :: p) = g.at? p) {nodes : List BinaryNode}
    {joins : List Join}
    (h : List.Forall₂ (g.IsJoined (pairs.inside m) (pairs.below side)) nodes joins) :
    List.Forall₂ (f.IsJoined m pairs) (nodes.map (.below side)) joins :=
  List.forall₂_map_left_iff.mpr (h.imp fun _ _ hjoined => ⟨hjoined.1, hjoined.2.below hside hat⟩)

theorem isJoined_joins (f : Formula) (pairs : Pairs) (m : Nat) :
    List.Forall₂ (IsJoined m f pairs) f.binaryNodes (f.joins pairs m) := by
  induction f generalizing pairs m with
  | atom name => exact .nil
  | unary c operand ih =>
      exact isJoined_below Side.noConfusion (fun _ => rfl) (ih _ _)
  | binary left c right ihLeft ihRight =>
      have hleft := isJoined_below (f := binary left c right) Side.noConfusion (fun _ => rfl)
        (ihLeft (pairs.below .left) (pairs.inside m))
      have hright : List.Forall₂ (IsJoined m (binary left c right) pairs)
          (right.binaryNodes.map (.below .right)) (right.joins (pairs.below .right) c.precedence) :=
        List.forall₂_map_left_iff.mpr
          ((ihRight _ _).imp fun _ _ hjoined => ⟨hjoined.1, hjoined.2.below_right⟩)
      have hroot : IsJoined m (binary left c right) pairs ⟨[], c⟩ ⟨c, pairs.inside m⟩ :=
        ⟨rfl, .root _ pairs m⟩
      exact List.rel_append (List.rel_append hleft hright) (.cons hroot .nil)

theorem joins_eq_of_written_eq {f : Formula} {pairs pairs' : Pairs}
    (h : f.written pairs = f.written pairs') (m : Nat) : f.joins pairs m = f.joins pairs' m := by
  induction f generalizing pairs pairs' m with
  | atom name => rfl
  | unary c operand ih =>
      obtain ⟨hroot, hoperand⟩ := written_inj_of_unary h
      rw [joins, joins, Pairs.inside, Pairs.inside, hroot, ih hoperand]
  | binary left c right ihLeft ihRight =>
      obtain ⟨hroot, hleft, hright⟩ := written_inj_of_binary h
      rw [joins, joins, Pairs.inside, Pairs.inside, hroot, ihLeft hleft, ihRight hright]

theorem joins_group (f : Formula) (pairs : Pairs) (m : Nat) :
    f.joins (.node (pairs [] + 1) pairs.below) m = f.joins pairs 0 := by
  have hgroup : Pairs.inside (.node (pairs [] + 1) pairs.below) m = 0 := if_neg (Nat.succ_ne_zero _)
  cases f with
  | atom name => rfl
  | unary c operand =>
      rw [joins, joins, hgroup, Pairs.inside_zero]
      rfl
  | binary left c right =>
      rw [joins, joins, hgroup, Pairs.inside_zero]
      rfl

end Formula

end Propositional
