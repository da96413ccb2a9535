import Propositional.Formula
import Propositional.Text.Quoted

namespace Propositional

structure TreeLine where
  level : Nat
  text : String
  deriving DecidableEq, Repr

def TreeLine.render (line : TreeLine) : String :=
  String.ofList (List.replicate (4 * line.level) ' ') ++ line.text

namespace Formula

/-- The lines of a formula at a level. `lead` stands before its first line and `trail` behind its
last one. -/
def treeLines (lead trail : String) (level : Nat) : Formula → List TreeLine
  | atom name =>
      [⟨level, lead ++ "Variable("⟩,
       ⟨level + 1, "Variable \x7b"⟩,
       ⟨level + 2, "name: " ++ Text.quoteString name ++ ","⟩,
       ⟨level + 1, "\x7d,"⟩,
       ⟨level, ")" ++ trail⟩]
  | unary c operand =>
      [⟨level, lead ++ "Unary("⟩,
       ⟨level + 1, "UnaryFormula \x7b"⟩,
       ⟨level + 2, "connective: " ++ c.label ++ ","⟩]
        ++ operand.treeLines "operand: " "," (level + 2)
        ++ [⟨level + 1, "\x7d,"⟩, ⟨level, ")" ++ trail⟩]
  | binary left c right =>
      [⟨level, lead ++ "Binary("⟩,
       ⟨level + 1, "BinaryFormula \x7b"⟩]
        ++ left.treeLines "left: " "," (level + 2)
        ++ [⟨level + 2, "connective: " ++ c.label ++ ","⟩]
        ++ right.treeLines "right: " "," (level + 2)
        ++ [⟨level + 1, "\x7d,"⟩, ⟨level, ")" ++ trail⟩]

def tree (f : Formula) : List TreeLine :=
  f.treeLines "" "" 0

def treePrint (f : Formula) : String :=
  "\n".intercalate (f.tree.map TreeLine.render)

end Formula

end Propositional
