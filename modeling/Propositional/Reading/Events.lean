import Propositional.Reading.Source

namespace Propositional

inductive ReadingEvent where
  | scanned (token : Token)
  | accepted (token : Token)
  | joined (connective : BinaryConnective) (minimum : Nat)
  deriving DecidableEq, Repr

namespace ReadingEvent

/-- Answers other than tokens are not observed. -/
def ofStep? : ReadingStep → Option ReadingEvent
  | .pulled (some (.token t)) => some (.scanned t)
  | .pulled _ => none
  | .accepted t => some (.accepted t)
  | .joined c minimum => some (.joined c minimum)

def message : ReadingEvent → String
  | scanned _ => "scanned token"
  | accepted _ => "accepted token"
  | joined _ _ => "built binary formula"

end ReadingEvent

/-- What has been observed so far, in order. -/
def Cursor.events (c : Cursor) : List ReadingEvent :=
  c.transcript.reverse.filterMap ReadingEvent.ofStep?

/-- What is observed while the source is read with the standard connectives. -/
def Formula.readingEvents (source : String) : List ReadingEvent :=
  (Reading.ofSource Registry.standard source).cursor.events

end Propositional
