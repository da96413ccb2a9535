import Propositional.Token.Scanner

namespace Propositional

/-- The bookmark is the start of the source until it is set. -/
structure ScannerSession where
  current : Scanner
  bookmark : Scanner
  deriving DecidableEq, Repr

namespace ScannerSession

inductive Command where
  | next
  | rest
  | collect
  | restart
  | source
  | save
  | load
  deriving DecidableEq, Repr

inductive Answer where
  /-- No item stands for the end of the scan. -/
  | item (item : Option Item)
  | items (items : List Item)
  | tokens (tokens : List Token)
  | invalid (fault : InvalidCharacter)
  | source (text : String)
  | done
  deriving DecidableEq, Repr

def start (source : String) : ScannerSession :=
  ⟨Scanner.start source, Scanner.start source⟩

def step (session : ScannerSession) : Command → Answer × ScannerSession
  | .next =>
      let (item, scanner) := session.current.next
      (.item item, { session with current := scanner })
  | .rest => (.items session.current.items, session)
  | .collect =>
      match session.current.collect with
      | (.ok tokens, scanner) => (.tokens tokens, { session with current := scanner })
      | (.error fault, scanner) => (.invalid fault, { session with current := scanner })
  | .restart => (.done, { session with current := session.current.restart })
  | .source => (.source session.current.source, session)
  | .save => (.done, { session with bookmark := session.current })
  | .load => (.done, { session with current := session.bookmark })

/-- The answers to a list of commands, in order. -/
def run (session : ScannerSession) : List Command → List Answer
  | [] => []
  | command :: rest => (session.step command).1 :: run (session.step command).2 rest

end ScannerSession

end Propositional
