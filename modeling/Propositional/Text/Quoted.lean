import Propositional.Text.Hidden

namespace Propositional.Text

def numberEscape (c : Char) : List Char :=
  ['\\', 'u', '\x7b'] ++ Nat.toDigits 16 c.toNat ++ ['\x7d']

/-- The quote in use and the backslash are escaped by a backslash, four controls have names of their
own, and every other hidden character is written by its number. -/
def escape (quote c : Char) : List Char :=
  if c = '\x00' then ['\\', '0']
  else if c = '\t' then ['\\', 't']
  else if c = '\n' then ['\\', 'n']
  else if c = '\r' then ['\\', 'r']
  else if c = '\\' then ['\\', '\\']
  else if c = quote then ['\\', quote]
  else if isHidden c then numberEscape c
  else [c]

def enclose (quote : Char) (text : List Char) : List Char :=
  [quote] ++ text.flatMap (escape quote) ++ [quote]

def quoteChar (c : Char) : String :=
  String.ofList (enclose '\'' [c])

def quoteString (s : String) : String :=
  String.ofList (enclose '"' s.toList)

end Propositional.Text
