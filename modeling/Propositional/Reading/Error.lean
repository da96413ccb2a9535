import Propositional.Token

namespace Propositional

/-- No token found means that the input ended. A kind is expected only where no other would do. -/
structure SyntaxError where
  found : Option Token
  expected : Option TokenKind
  deriving DecidableEq, Repr

namespace SyntaxError

def subject (fault : SyntaxError) : String :=
  match fault.found with
  | some t => "token \"" ++ t.lexeme ++ "\" at position " ++ toString t.position
  | none => "end of input"

def message (fault : SyntaxError) : String :=
  let place := "Unexpected " ++ fault.subject
  match fault.expected with
  | some kind => place ++ ": expected " ++ kind.label
  | none => place

end SyntaxError

inductive ReadingError where
  | invalid (fault : InvalidCharacter)
  | misplaced (fault : SyntaxError)
  deriving DecidableEq, Repr

def ReadingError.message : ReadingError → String
  | invalid fault => fault.message
  | misplaced fault => fault.message

end Propositional
