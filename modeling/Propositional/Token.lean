import Propositional.Text.Quoted

namespace Propositional

/-- What a token stands for. The declaration order is the order of comparison, and the order in
which a scanner tries the kinds. -/
inductive TokenKind where
  | negation
  | conjunction
  | disjunction
  | implication
  | opening
  | closing
  | name
  | blank
  deriving DecidableEq, Repr, Ord

namespace TokenKind

def all : List TokenKind :=
  [negation, conjunction, disjunction, implication, opening, closing, name, blank]

theorem mem_all (kind : TokenKind) : kind ∈ all := by
  cases kind <;> decide

def label : TokenKind → String
  | negation => "NOT"
  | conjunction => "AND"
  | disjunction => "OR"
  | implication => "IMPLIES"
  | opening => "PARENTHESIS_LEFT"
  | closing => "PARENTHESIS_RIGHT"
  | name => "VARIABLE"
  | blank => "WHITESPACE"

end TokenKind

/-- A lexeme with its kind. The position counts the characters before the lexeme. -/
structure Token where
  kind : TokenKind
  lexeme : String
  position : Nat
  deriving DecidableEq, Repr

/-- A character that no lexeme starts with, and the number of characters before it. -/
structure InvalidCharacter where
  character : Char
  position : Nat
  deriving DecidableEq, Repr

def InvalidCharacter.message (fault : InvalidCharacter) : String :=
  "Unknown character " ++ Text.quoteChar fault.character ++ " at position "
    ++ toString fault.position

inductive Item where
  | token (token : Token)
  | invalid (fault : InvalidCharacter)
  deriving DecidableEq, Repr

namespace Item

def token? : Item → Option Token
  | .token t => some t
  | .invalid _ => none

def invalid? : Item → Option InvalidCharacter
  | .token _ => none
  | .invalid fault => some fault

end Item

end Propositional
