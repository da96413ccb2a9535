import Propositional.CommandLine.Arguments
import Propositional.CommandLine.InputLines
import Propositional.CommandLine.Report

namespace Propositional.CommandLine

inductive Response where
  | notice (text : String)
  | misuse (misuse : Misuse)
  | answered (level : LogLevel) (report : Report)
  deriving DecidableEq, Repr

def versionText : String :=
  "proplogic 0.1.0\n"

def helpText : String :=
  "Scanner and operator-precedence parser for propositional logic formulas\n\n"
    ++ "Usage: proplogic [OPTIONS] [FORMULA]...\n\n"
    ++ "Arguments:\n"
    ++ "  [FORMULA]...  Formulas to parse. Formulas are read from stdin, one per line, when none "
    ++ "are given\n\n"
    ++ "Options:\n"
    ++ "  -t, --tree     Print the syntax tree of each formula after its canonical rendering\n"
    ++ "  -h, --help     Print help\n"
    ++ "  -V, --version  Print version\n"

def inputReport (tree : Bool) (input : List Byte) : Report :=
  let lines := InputLines.ofBytes input
  let report := Report.ofSources tree lines.sources
  if lines.readable then report else report.append .ofUnreadableInput

/-- Whether the arguments make the program read its input. -/
def needsInput (arguments : List String) : Bool :=
  match Arguments.ofList arguments with
  | .ok a => a.formulas.isEmpty
  | .error _ => false

def respond (level : LogLevel) (arguments : List String) (input : List Byte) : Response :=
  match Arguments.ofList arguments with
  | .error .version => .notice versionText
  | .error .help => .notice helpText
  | .error (.misuse misuse) => .misuse misuse
  | .ok a =>
      if a.formulas.isEmpty then .answered level (inputReport a.tree input)
      else .answered level (Report.ofSources a.tree a.formulas)

namespace Response

def exitCode : Response → Nat
  | notice _ => 0
  | misuse _ => 2
  | answered _ report => if report.failed then 1 else 0

def output : Response → String
  | notice text => text
  | misuse _ => ""
  | answered _ report => report.output

def log : Response → List String
  | notice _ => []
  | misuse _ => []
  | answered level report => level.log report.entries

end Response

end Propositional.CommandLine
