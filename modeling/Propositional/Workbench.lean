import Propositional.Formula.TreePrint
import Propositional.Reading.Source

namespace Propositional

/-- A stack of formulas, the top first. -/
abbrev Workbench := List Formula

namespace Workbench

inductive Refusal where
  | underflow
  | notUnary
  | notBinary
  | invalidName (fault : InvalidName)
  | unreadable (fault : ReadingError)
  deriving DecidableEq, Repr

inductive Edit where
  | atom (name : String)
  | read (source : String)
  | unary (connective : UnaryConnective)
  | binary (connective : BinaryConnective)
  | duplicate
  | drop
  | swap
  | left
  | right
  | operand
  deriving DecidableEq, Repr

inductive Query where
  | distinct
  | render
  | depth
  | names
  | preorder
  | connective
  | reread
  | treePrint
  | equal
  deriving DecidableEq, Repr

inductive Command where
  | edit (edit : Edit)
  | ask (query : Query)
  | times (count : Nat) (body : List Command)

inductive Answer where
  /-- The number of formulas on the stack and the rendering of the top. -/
  | state (size : Nat) (top : Option String)
  | number (n : Nat)
  | text (text : String)
  | names (names : List String)
  | nodes (nodes : List Node)
  | connective (connective : Option Connective)
  | truth (value : Bool)
  | refusal (cause : Refusal)
  deriving DecidableEq, Repr

/-- The binary edit takes its right operand from the top and its left operand from below it. -/
def Edit.apply : Edit → Workbench → Except Refusal Workbench
  | .atom name, stack =>
      match Formula.ofName name with
      | .ok f => .ok (f :: stack)
      | .error fault => .error (.invalidName fault)
  | .read source, stack =>
      match Formula.read source with
      | .ok f => .ok (f :: stack)
      | .error fault => .error (.unreadable fault)
  | .unary c, f :: stack => .ok (.unary c f :: stack)
  | .binary c, g :: f :: stack => .ok (.binary f c g :: stack)
  | .duplicate, f :: stack => .ok (f :: f :: stack)
  | .drop, _ :: stack => .ok stack
  | .swap, f :: g :: stack => .ok (g :: f :: stack)
  | .left, .binary f _ _ :: stack => .ok (f :: stack)
  | .left, _ :: _ => .error .notBinary
  | .right, .binary _ _ g :: stack => .ok (g :: stack)
  | .right, _ :: _ => .error .notBinary
  | .operand, .unary _ f :: stack => .ok (f :: stack)
  | .operand, _ :: _ => .error .notUnary
  | _, _ => .error .underflow

/-- Whether the rendering of a formula reads back as the formula itself. -/
def readsBack (f : Formula) : Except ReadingError Bool :=
  (Formula.read f.render).map fun g => decide (g = f)

def Query.answer : Query → Workbench → Answer
  | .distinct, stack => .number stack.eraseDups.length
  | .render, f :: _ => .text f.render
  | .depth, f :: _ => .number f.depth
  | .names, f :: _ => .names f.names
  | .preorder, f :: _ => .nodes f.preorder
  | .connective, f :: _ => .connective f.connective?
  | .reread, f :: _ =>
      match readsBack f with
      | .ok value => .truth value
      | .error fault => .refusal (.unreadable fault)
  | .treePrint, f :: _ => .text f.treePrint
  | .equal, f :: g :: _ => .truth (decide (f = g))
  | _, _ => .refusal .underflow

mutual

/-- What a command does to the stack. -/
def Command.apply : Command → Workbench → Workbench
  | .edit e, stack =>
      match e.apply stack with
      | .ok edited => edited
      | .error _ => stack
  | .ask _, stack => stack
  | .times count body, stack => Nat.repeat (applyAll body) count stack

def applyAll : List Command → Workbench → Workbench
  | [], stack => stack
  | command :: rest, stack => applyAll rest (command.apply stack)

end

def state (stack : Workbench) : Answer :=
  .state stack.length (stack.head?.map Formula.render)

/-- The answer to a command that is carried out on a stack. -/
def Command.answer : Command → Workbench → Answer
  | .edit e, stack =>
      match e.apply stack with
      | .ok edited => state edited
      | .error cause => .refusal cause
  | .ask query, stack => query.answer stack
  | command, stack => state (command.apply stack)

/-- The answers to a list of commands, in order. -/
def run (stack : Workbench) : List Command → List Answer
  | [] => []
  | command :: rest => command.answer stack :: run (command.apply stack) rest

end Workbench

end Propositional
