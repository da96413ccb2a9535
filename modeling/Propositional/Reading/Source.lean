import Propositional.Reading.Descent
import Propositional.Token.Scanner

namespace Propositional

namespace Reading

/-- Read all that the cursor holds as one formula. A token that is left over is an error. -/
def toEnd (registry : Registry) (c : Cursor) : Outcome Formula :=
  c.pull.bind fun _ first =>
    (formula registry first).bind fun f last =>
      match last.lookahead with
      | some t => .error (.misplaced ⟨some t, none⟩) last
      | none => .ok f last

def ofFeed (registry : Registry) (feed : Feed) : Outcome Formula :=
  toEnd registry (Cursor.start feed)

def ofTokens (registry : Registry) (tokens : List Token) : Outcome Formula :=
  ofFeed registry (tokens.map fun t => some (.token t))

def ofItems (registry : Registry) (items : List Item) : Outcome Formula :=
  ofFeed registry (items.map some)

/-- Items are taken from the scanner only as they are asked for. -/
def ofSource (registry : Registry) (source : String) : Outcome Formula :=
  ofItems registry (scan source)

end Reading

namespace Cursor

/-- The items that have not been asked for. -/
def rest (c : Cursor) : List Item :=
  c.unread.filterMap id

end Cursor

namespace Formula

/-- Read a source with the standard connectives. -/
def read (source : String) : Except ReadingError Formula :=
  (Reading.ofSource Registry.standard source).result

def readTokens (registry : Registry) (tokens : List Token) : Except ReadingError Formula :=
  (Reading.ofTokens registry tokens).result

/-- Scan the whole source before reading it: an invalid character anywhere in it is the error. -/
def readScanned (registry : Registry) (source : String) : Except ReadingError Formula :=
  match (Scanner.start source).collect.1 with
  | .error fault => .error (.invalid fault)
  | .ok tokens => readTokens registry tokens

end Formula

end Propositional
