import Propositional.Main
import Propositional.Reading.Events
import Propositional.Token.Session
import Propositional.Workbench
import Propositional.Proofs.Reading.Stage
import Propositional.Proofs.Reading.Run
import Propositional.Proofs.Reading.Grammar
import Propositional.Proofs.Reading.Viable
import Propositional.Proofs.Reading.Pulls
import Propositional.Proofs.Reading.Lazy
import Propositional.Proofs.Reading.Scanned
import Propositional.Proofs.Reading.Restriction
import Propositional.Proofs.Reading.Parametric
import Propositional.Proofs.Reading.Substitution
import Propositional.Proofs.Token.Lexeme
import Propositional.Proofs.Token.Layout
import Propositional.Proofs.Reading.Rendering
import Propositional.Proofs.Formula.Parenthesized
import Propositional.Proofs.Formula.Names
import Propositional.Proofs.Reading.Parentheses
import Propositional.Proofs.Token.Tiling
import Propositional.Proofs.Reading.Kinds
import Propositional.Proofs.Token.Session
import Propositional.Proofs.Token.Concatenation
import Propositional.Proofs.Reading.Events
import Propositional.Proofs.Token.Offending
import Propositional.Proofs.CommandLine.Input
import Propositional.Proofs.Formula.Obtainable
import Propositional.Proofs.Formula.Joins
import Propositional.Proofs.Reading.Expected
import Propositional.Proofs.Reading.Construction
import Propositional.Proofs.Connective.Registry
import Propositional.Proofs.Formula.TreePrint
import Propositional.Proofs.CommandLine.Answers
import Propositional.Proofs.Reading.Climb
import Propositional.Proofs.Token.Order
import Propositional.Proofs.Token.Boundary
import Propositional.Proofs.Reading.Calls
