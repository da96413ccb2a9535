import Propositional.Formula.TreePrint
import Propositional.Reading.Events

namespace Propositional.CommandLine

/-- How much is logged. Each level shows what the levels before it show, and more. -/
inductive LogLevel where
  | off
  | error
  | warning
  | info
  | debug
  | trace
  deriving DecidableEq, Repr

namespace LogLevel

def ofName? (name : String) : Option LogLevel :=
  if name = "off" then some off
  else if name = "error" then some error
  else if name = "warn" then some warning
  else if name = "info" then some info
  else if name = "debug" then some debug
  else if name = "trace" then some trace
  else none

def rank : LogLevel → Nat
  | off => 0
  | error => 1
  | warning => 2
  | info => 3
  | debug => 4
  | trace => 5

end LogLevel

/-- How severe an entry of the log is. No entry is a warning. -/
inductive Severity where
  | error
  | info
  | debug
  | trace
  deriving DecidableEq, Repr

namespace Severity

def label : Severity → String
  | error => "ERROR"
  | info => "INFO"
  | debug => "DEBUG"
  | trace => "TRACE"

/-- The first level that shows such entries. -/
def level : Severity → LogLevel
  | error => .error
  | info => .info
  | debug => .debug
  | trace => .trace

end Severity

def LogLevel.shows (level : LogLevel) (severity : Severity) : Bool :=
  severity.level.rank ≤ level.rank

/-- An entry names the part of the program that it comes from. -/
structure LogEntry where
  severity : Severity
  origin : String
  text : String
  deriving DecidableEq, Repr

namespace LogEntry

def line (entry : LogEntry) : String :=
  entry.severity.label ++ " " ++ entry.origin ++ ": " ++ entry.text

/-- Said once, when the connectives are set up for the first formula. -/
def connectivesReady : LogEntry :=
  ⟨.debug, "proplogic::connectives",
    "initialized connective registry count=" ++ toString Registry.standard.size⟩

def ofEvent (event : ReadingEvent) : LogEntry :=
  match event with
  | .scanned t =>
      ⟨.trace, "proplogic::scanner",
        event.message ++ " kind=" ++ t.kind.label ++ " lexeme=" ++ Text.quoteString t.lexeme
          ++ " position=" ++ toString t.position⟩
  | .accepted t =>
      ⟨.trace, "proplogic::parser",
        event.message ++ " kind=" ++ t.kind.label ++ " position=" ++ toString t.position⟩
  | .joined c minimum =>
      ⟨.trace, "proplogic::parser",
        event.message ++ " connective=" ++ Text.quoteString c.label
          ++ " min_precedence=" ++ toString minimum⟩

def parsed (f : Formula) : LogEntry :=
  ⟨.info, "proplogic",
    "parsed formula depth=" ++ toString f.depth ++ " variables=["
      ++ ", ".intercalate (f.names.map Text.quoteString) ++ "]"⟩

def failure (source : String) (fault : ReadingError) : LogEntry :=
  ⟨.error, "proplogic", Text.quoteString source ++ ": " ++ fault.message⟩

def unreadableInput : LogEntry :=
  ⟨.error, "proplogic", "could not read stdin: stream did not contain valid UTF-8"⟩

end LogEntry

/-- The lines of the entries that the level shows. -/
def LogLevel.log (level : LogLevel) (entries : List LogEntry) : List String :=
  (entries.filter fun entry => level.shows entry.severity).map LogEntry.line

/-- The rendering and, if asked for, the tree, each ended by a line feed. -/
def formulaOutput (tree : Bool) (f : Formula) : String :=
  if tree then f.render ++ "\n" ++ f.treePrint ++ "\n" else f.render ++ "\n"

/-- Text for standard output, entries for the log, and whether anything failed. -/
structure Report where
  output : String
  entries : List LogEntry
  failed : Bool
  deriving DecidableEq, Repr

namespace Report

def empty : Report :=
  ⟨"", [], false⟩

def append (r s : Report) : Report :=
  ⟨r.output ++ s.output, r.entries ++ s.entries, r.failed || s.failed⟩

def ofSource (tree : Bool) (source : String) : Report :=
  let outcome := Reading.ofSource Registry.standard source
  let noted := outcome.cursor.events.map LogEntry.ofEvent
  match outcome.result with
  | .ok f => ⟨formulaOutput tree f, noted ++ [.parsed f], false⟩
  | .error fault => ⟨"", noted ++ [.failure source fault], true⟩

def ofEach (tree : Bool) : List String → Report
  | [] => empty
  | source :: rest => (ofSource tree source).append (ofEach tree rest)

/-- The connectives are set up if there is any formula to read. -/
def ofSources (tree : Bool) : List String → Report
  | [] => empty
  | source :: rest =>
      append ⟨"", [.connectivesReady], false⟩ (ofEach tree (source :: rest))

/-- An input that could not be read to its end. -/
def ofUnreadableInput : Report :=
  ⟨"", [.unreadableInput], true⟩

end Report

end Propositional.CommandLine
