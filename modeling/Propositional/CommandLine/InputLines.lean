import Propositional.Text.Blank

namespace Propositional.CommandLine

abbrev Byte := UInt8

/-- Split at the line feeds and drop the endings. `line` holds the bytes of the current line, the
latest first. -/
def splitLinesFrom (line : List Byte) : List Byte → List (List Byte)
  | [] => if line.isEmpty then [] else [line.reverse]
  | byte :: rest =>
      if byte = 10 then
        match line with
        | 13 :: shorter => shorter.reverse :: splitLinesFrom [] rest
        | _ => line.reverse :: splitLinesFrom [] rest
      else splitLinesFrom (byte :: line) rest

def splitLines (input : List Byte) : List (List Byte) :=
  splitLinesFrom [] input

def decodeLine? (line : List Byte) : Option String :=
  String.fromUTF8? (ByteArray.mk line.toArray)

/-- The lines before the first one that is not UTF-8, and whether there is none such. -/
def decodeLines : List (List Byte) → List String × Bool
  | [] => ([], true)
  | line :: rest =>
      match decodeLine? line with
      | none => ([], false)
      | some text => (text :: (decodeLines rest).1, (decodeLines rest).2)

def IsBlankLine (line : String) : Prop :=
  Text.AllBlank line.toList

instance (line : String) : Decidable (IsBlankLine line) :=
  inferInstanceAs (Decidable (Text.AllBlank line.toList))

structure InputLines where
  sources : List String
  readable : Bool
  deriving DecidableEq, Repr

/-- The formulas that an input holds, one on each line that is not blank. -/
def InputLines.ofBytes (input : List Byte) : InputLines :=
  let (lines, readable) := decodeLines (splitLines input)
  ⟨lines.filter fun line => ¬IsBlankLine line, readable⟩

end Propositional.CommandLine
