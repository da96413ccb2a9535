/-!
The arguments of the command line. Arguments are looked at from left to right and the first one that
asks for a notice or is a mistake decides. Options may stand between formulas; after `--` every
argument is a formula, and so is a single dash anywhere.
-/

namespace Propositional.CommandLine

inductive Misuse where
  | unknownOption (option : String)
  | repeatedOption (option : String)
  | unexpectedValue (option : String)
  deriving DecidableEq, Repr

def Misuse.message : Misuse → String
  | .unknownOption option => "unknown option '" ++ option ++ "'"
  | .repeatedOption option => "the option '" ++ option ++ "' may be given only once"
  | .unexpectedValue option => "the option '" ++ option ++ "' takes no value"

/-- Why the arguments do not lead to any formula being read. -/
inductive Stop where
  | version
  | help
  | misuse (misuse : Misuse)
  deriving DecidableEq, Repr

structure Arguments where
  tree : Bool
  formulas : List String
  deriving DecidableEq, Repr

namespace Arguments

def empty : Arguments :=
  ⟨false, []⟩

def addFormula (a : Arguments) (formula : String) : Arguments :=
  { a with formulas := a.formulas ++ [formula] }

def setTree (a : Arguments) : Except Stop Arguments :=
  if a.tree then .error (.misuse (.repeatedOption "--tree")) else .ok { a with tree := true }

/-- A flag given by its full name, without the dashes. -/
def longFlag (name : String) (a : Arguments) : Except Stop Arguments :=
  if name = "tree" then a.setTree
  else if name = "version" then .error .version
  else if name = "help" then .error .help
  else .error (.misuse (.unknownOption ("--" ++ name)))

/-- An argument that starts with two dashes. No flag takes a value after an equals sign. -/
def longOption (text : List Char) (a : Arguments) : Except Stop Arguments :=
  let name := String.ofList (text.takeWhile (· ≠ '='))
  if '=' ∈ text then
    if name ∈ ["tree", "version", "help"] then .error (.misuse (.unexpectedValue ("--" ++ name)))
    else .error (.misuse (.unknownOption ("--" ++ name)))
  else longFlag name a

def shortFlag (flag : Char) (a : Arguments) : Except Stop Arguments :=
  if flag = 't' then a.setTree
  else if flag = 'V' then .error .version
  else if flag = 'h' then .error .help
  else .error (.misuse (.unknownOption (String.ofList ['-', flag])))

/-- One-letter flags that share a dash. -/
def shortFlags : List Char → Arguments → Except Stop Arguments
  | [], a => .ok a
  | flag :: rest, a =>
      match shortFlag flag a with
      | .ok a' => shortFlags rest a'
      | .error stop => .error stop

/-- An argument before any `--`. -/
def addArgument (argument : String) (a : Arguments) : Except Stop Arguments :=
  match argument.toList with
  | '-' :: '-' :: name => longOption name a
  | '-' :: flag :: flags => shortFlags (flag :: flags) a
  | _ => .ok (a.addFormula argument)

def addAll : List String → Arguments → Except Stop Arguments
  | [], a => .ok a
  | argument :: rest, a =>
      if argument = "--" then .ok { a with formulas := a.formulas ++ rest }
      else
        match addArgument argument a with
        | .ok a' => addAll rest a'
        | .error stop => .error stop

def ofList (arguments : List String) : Except Stop Arguments :=
  addAll arguments empty

end Arguments

end Propositional.CommandLine
