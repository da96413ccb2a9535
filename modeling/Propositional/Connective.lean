import Propositional.Token

namespace Propositional

inductive Arity where
  | unary
  | binary
  deriving DecidableEq, Repr

namespace Arity

def operands : Arity → Nat
  | unary => 1
  | binary => 2

def label : Arity → String
  | unary => "Unary"
  | binary => "Binary"

end Arity

inductive UnaryConnective where
  | negation
  deriving DecidableEq, Repr

inductive BinaryConnective where
  | conjunction
  | disjunction
  | implication
  deriving DecidableEq, Repr

inductive Connective where
  | unary (connective : UnaryConnective)
  | binary (connective : BinaryConnective)
  deriving DecidableEq, Repr

namespace UnaryConnective

def kind : UnaryConnective → TokenKind
  | negation => .negation

def label : UnaryConnective → String
  | negation => "Negation"

def precedence : UnaryConnective → Nat
  | negation => 5

def glyph : UnaryConnective → String
  | negation => "¬"

end UnaryConnective

namespace BinaryConnective

def kind : BinaryConnective → TokenKind
  | conjunction => .conjunction
  | disjunction => .disjunction
  | implication => .implication

def label : BinaryConnective → String
  | conjunction => "Conjunction"
  | disjunction => "Disjunction"
  | implication => "Implication"

def precedence : BinaryConnective → Nat
  | conjunction => 4
  | disjunction => 3
  | implication => 2

theorem precedence_pos (b : BinaryConnective) : 0 < b.precedence := by
  cases b <;> decide

def glyph : BinaryConnective → String
  | conjunction => "∧"
  | disjunction => "∨"
  | implication => "→"

end BinaryConnective

namespace Connective

def all : List Connective :=
  [.unary .negation, .binary .conjunction, .binary .disjunction, .binary .implication]

theorem mem_all (c : Connective) : c ∈ all := by
  rcases c with (_ | _) | (_ | _ | _) <;> decide

def kind : Connective → TokenKind
  | unary c => c.kind
  | binary c => c.kind

theorem kind_injective {c d : Connective} (h : c.kind = d.kind) : c = d := by
  rcases c with (_ | _) | (_ | _ | _) <;> rcases d with (_ | _) | (_ | _ | _) <;>
    simp_all [kind, UnaryConnective.kind, BinaryConnective.kind]

def arity : Connective → Arity
  | unary _ => .unary
  | binary _ => .binary

def label : Connective → String
  | unary c => c.label
  | binary c => c.label

/-- Of two connectives, the one with the higher precedence binds more tightly. -/
def precedence : Connective → Nat
  | unary c => c.precedence
  | binary c => c.precedence

/-- How the connective is written in rendered formulas. -/
def glyph : Connective → String
  | unary c => c.glyph
  | binary c => c.glyph

/-- Connectives are compared by precedence alone, so different ones may compare as equal. -/
def comparePrecedence (c d : Connective) : Ordering :=
  compare c.precedence d.precedence

def bindsTighterThan (c d : Connective) : Bool :=
  c.comparePrecedence d == .gt

end Connective

end Propositional
