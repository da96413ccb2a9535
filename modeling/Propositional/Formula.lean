import Propositional.Connective
import Propositional.Text.Letter

namespace Propositional

inductive Formula where
  | atom (name : String)
  | unary (connective : UnaryConnective) (operand : Formula)
  | binary (left : Formula) (connective : BinaryConnective) (right : Formula)
  deriving DecidableEq, Repr

/-- Names of atoms are runs of letters. -/
def IsName (name : String) : Prop :=
  name.toList ≠ [] ∧ Text.AllLetters name.toList

instance (name : String) : Decidable (IsName name) :=
  inferInstanceAs (Decidable (name.toList ≠ [] ∧ Text.AllLetters name.toList))

structure InvalidName where
  name : String
  deriving DecidableEq, Repr

def InvalidName.message (fault : InvalidName) : String :=
  "Invalid variable name \"" ++ fault.name ++ "\""

namespace Formula

def ofName (name : String) : Except InvalidName Formula :=
  if IsName name then .ok (.atom name) else .error ⟨name⟩

/-- Every atom bears a proper name. -/
def WellNamed : Formula → Prop
  | atom name => IsName name
  | unary _ operand => operand.WellNamed
  | binary left _ right => left.WellNamed ∧ right.WellNamed

/-- A binary formula always has parentheses and a negation never. -/
def render : Formula → String
  | atom name => name
  | unary c operand => c.glyph ++ operand.render
  | binary left c right =>
      "(" ++ left.render ++ " " ++ c.glyph ++ " " ++ right.render ++ ")"

/-- The height of the tree; an atom has depth one. -/
def depth : Formula → Nat
  | atom _ => 1
  | unary _ operand => 1 + operand.depth
  | binary left _ right => 1 + max left.depth right.depth

/-- The names of the atoms from left to right. -/
def leaves : Formula → List String
  | atom name => [name]
  | unary _ operand => operand.leaves
  | binary left _ right => left.leaves ++ right.leaves

/-- Add to the names seen so far those that the formula brings for the first time. -/
def namesAfter (seen : List String) : Formula → List String
  | atom name => if name ∈ seen then seen else seen ++ [name]
  | unary _ operand => operand.namesAfter seen
  | binary left _ right => right.namesAfter (left.namesAfter seen)

/-- The distinct names in order of first appearance. -/
def names (f : Formula) : List String :=
  f.namesAfter []

/-- The connective at the root. -/
def connective? : Formula → Option Connective
  | atom _ => none
  | unary c _ => some (.unary c)
  | binary _ c _ => some (.binary c)

end Formula

/-- A node without its operands. -/
inductive Node where
  | atom (name : String)
  | unary (connective : UnaryConnective)
  | binary (connective : BinaryConnective)
  deriving DecidableEq, Repr

/-- The nodes of a formula, each before its operands and the left operand before the right. -/
def Formula.preorder : Formula → List Node
  | atom name => [.atom name]
  | unary c operand => .unary c :: operand.preorder
  | binary left c right => .binary c :: left.preorder ++ right.preorder

end Propositional
