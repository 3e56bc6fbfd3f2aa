/-
Expressions and statements.  Every expression that can fail carries the line
that its failure is reported at: that of its last word.
-/
import Stencil.Number.Double

namespace Stencil.Template

/-- Values that are written out. -/
inductive Literal where
  | none
  | bool (value : Bool)
  | integer (value : Int)
  | float (value : Double)
  | string (text : List Char)
deriving DecidableEq, Repr

/-- Operators between two values that are both computed. -/
inductive BinaryOperator where
  | add
  | subtract
  | multiply
  | divide
  | divideWhole
  | remainder
  | power
  | concatenate
  | equal
  | notEqual
  | less
  | lessOrEqual
  | greater
  | greaterOrEqual
  | contains
deriving DecidableEq, Repr

mutual

inductive Expression where
  | literal (value : Literal) (line : Nat)
  | reference (name : String) (line : Nat)
  /-- The text that a filter is applied to when it follows no expression. -/
  | held (line : Nat)
  | list (items : List Expression) (line : Option Nat)
  | dict (entries : List (Expression × Expression)) (line : Option Nat)
  | not (operand : Expression) (line : Nat)
  | negate (operand : Expression) (line : Nat)
  | binary (operator : BinaryOperator) (left right : Expression) (line : Nat)
  /-- Comparisons of neighbours, all of which must hold. -/
  | compare (first : Expression) (links : List Link) (line : Nat)
  | and (left right : Expression) (line : Nat)
  | or (left right : Expression) (line : Nat)
  | conditional (condition whenTrue : Expression)
      (whenFalse : Option Expression) (line : Nat)
  | member (subject : Expression) (name : String) (line : Nat)
  | item (subject key : Expression) (line : Nat)
  | slice (subject : Expression) (start stop step : Option Expression)
      (line : Nat)
  | call (name : String) (arguments : List Argument) (line : Nat)
  | callMethod (subject : Expression) (name : String)
      (arguments : List Argument) (line : Nat)
  | callValue (subject : Expression) (arguments : List Argument) (line : Nat)
  | filter (subject : Expression) (name : String) (arguments : List Argument)
      (line : Nat)
  | test (subject : Expression) (name : String) (arguments : List Argument)
      (line : Nat)

/-- A comparison with what stands before it; `reversed` turns its outcome
around. -/
inductive Link where
  | mk (operator : BinaryOperator) (reversed : Bool) (operand : Expression)
      (line : Nat)

inductive Argument where
  | positional (value : Expression)
  | keyword (name : String) (value : Expression)

end

instance : Inhabited Expression := ⟨.literal .none 0⟩

/-- The line of the last word of an expression.  A list of literals has none of
its own. -/
def Expression.line? : Expression → Option Nat
  | literal _ line => some line
  | reference _ line => some line
  | held line => some line
  | list _ line => line
  | dict _ line => line
  | not _ line => some line
  | negate _ line => some line
  | binary _ _ _ line => some line
  | compare _ _ line => some line
  | and _ _ line => some line
  | or _ _ line => some line
  | conditional _ _ _ line => some line
  | member _ _ line => some line
  | item _ _ line => some line
  | slice _ _ _ _ line => some line
  | call _ _ line => some line
  | callMethod _ _ _ line => some line
  | callValue _ _ line => some line
  | filter _ _ _ line => some line
  | test _ _ _ line => some line

/-- What a link compares with. -/
def Link.operand : Link → Expression
  | mk _ _ operand _ => operand

/-- The expression that an argument passes on. -/
def Argument.value : Argument → Expression
  | positional value => value
  | keyword _ value => value

/-- What a value is assigned to. -/
inductive Target where
  | bare (name : String)
  | tuple (items : List Target)
  | member (owner : String)
deriving Repr

/-- A parameter of a routine, with the value it takes when none is passed. -/
structure Parameter where
  name : String
  default : Option Expression

inductive Node where
  | text (chars : List Char)
  | output (value : Expression) (line : Nat)
  | branch (condition : Expression) (whenTrue whenFalse : List Node)
      (line : Nat)
  | loop (target : Target) (items : Expression) (condition : Option Expression)
      (body otherwise : List Node) (line : Nat)
  | assign (target : Target) (value : Expression) (line : Nat)
  | capture (target : Target) (filter : Option Expression) (body : List Node)
      (line : Nat)
  | scope (assignments : List (Target × Expression)) (body : List Node)
      (line : Nat)
  | filtered (filter : Expression) (body : List Node) (line : Nat)
  | block (name : String) (body : List Node)
  | routine (name : String) (parameters : List Parameter) (body : List Node)
  | insert (source : Expression) (optional : Bool) (line : Nat)
  | extend (source : Expression) (line : Nat)
  | perform (call : Expression) (line : Nat)

instance : Inhabited Node := ⟨.text []⟩

/-- A named piece of template with parameters. -/
structure Routine where
  name : String
  parameters : List Parameter
  body : List Node

mutual

/-- The names of the blocks in a statement, routines aside. -/
def Node.blockNames : Node → List String
  | .branch _ whenTrue whenFalse _ =>
      blockNamesOf whenTrue ++ blockNamesOf whenFalse
  | .loop _ _ _ body otherwise _ => blockNamesOf body ++ blockNamesOf otherwise
  | .capture _ _ body _ => blockNamesOf body
  | .scope _ body _ => blockNamesOf body
  | .filtered _ body _ => blockNamesOf body
  | .block name body => name :: blockNamesOf body
  | _ => []

def blockNamesOf : List Node → List String
  | [] => []
  | node :: rest => node.blockNames ++ blockNamesOf rest

end

mutual

/-- Whether no routine within a statement holds a block. -/
def Node.keepsBlocksOut : Node → Bool
  | .branch _ whenTrue whenFalse _ =>
      keepBlocksOut whenTrue && keepBlocksOut whenFalse
  | .loop _ _ _ body otherwise _ =>
      keepBlocksOut body && keepBlocksOut otherwise
  | .capture _ _ body _ => keepBlocksOut body
  | .scope _ body _ => keepBlocksOut body
  | .filtered _ body _ => keepBlocksOut body
  | .block _ body => keepBlocksOut body
  | .routine _ _ body => (blockNamesOf body).isEmpty && keepBlocksOut body
  | _ => true

def keepBlocksOut : List Node → Bool
  | [] => true
  | node :: rest => node.keepsBlocksOut && keepBlocksOut rest

end

end Stencil.Template
