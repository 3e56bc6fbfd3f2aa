/-
Reading expressions.  A reader takes the words of a tag and returns what it
read with the remaining words.  Operators are read level by level, from the
loosest to the tightest, and expressions may be nested only to a fixed depth.
-/
import Stencil.Template.Expression
import Stencil.Template.Lexeme

namespace Stencil.Template

/-- A reader of words. -/
abbrev Reader (α : Type) := List Lexeme → Except Failure (α × List Lexeme)

namespace Reader

/-- The failure at the next word. -/
def failureAt : List Lexeme → Failure
  | ⟨.unreadable failure, _⟩ :: _ => failure
  | _ => .malformed

def fail {α : Type} : Reader α := fun words =>
  .error (failureAt words)

/-- The line of the next word. -/
def lineOf (line : Nat) : List Lexeme → Nat
  | [] => line
  | word :: _ => word.line

/-- Pass a symbol, if it is next. -/
def skipSymbol? (text : String) : List Lexeme → Option (List Lexeme)
  | ⟨.symbol s, _⟩ :: rest => if s = text then some rest else none
  | _ => none

/-- Pass a name, if it is next. -/
def skipName? (text : String) : List Lexeme → Option (List Lexeme)
  | ⟨.name s, _⟩ :: rest => if s = text then some rest else none
  | _ => none

/-- Pass a symbol that must be next. -/
def expectSymbol (text : String) : Reader Unit := fun words =>
  match skipSymbol? text words with
  | some rest => .ok ((), rest)
  | none => fail words

/-- Pass a name that must be next. -/
def expectName (text : String) : Reader Unit := fun words =>
  match skipName? text words with
  | some rest => .ok ((), rest)
  | none => fail words

/-- Read any name. -/
def anyName : Reader (String × Nat) := fun words =>
  match words with
  | ⟨.name s, line⟩ :: rest => .ok ((s, line), rest)
  | _ => fail words

/-- Nothing may follow. -/
def expectEnd (words : List Lexeme) : Except Failure Unit :=
  match words with
  | [] => .ok ()
  | _ => .error (failureAt words)

/-- Read items up to a closing symbol, with commas between them and perhaps
after the last. -/
def itemsUntil {α : Type} (close : String) (item : Reader α) :
    Nat → Bool → Reader (List α)
  | 0, _, words => fail words
  | fuel + 1, isFirst, words =>
      match skipSymbol? close words with
      | some rest => .ok ([], rest)
      | none => do
          let words ←
            if isFirst then .ok words
            else do
              let (_, rest) ← expectSymbol "," words
              .ok rest
          match (if isFirst then none else skipSymbol? close words) with
          | some rest => .ok ([], rest)
          | none => do
              let (first, rest) ← item words
              let (others, rest) ← itemsUntil close item fuel false rest
              .ok (first :: others, rest)

end Reader

namespace Expression

open Reader

/-- The line of the last of several expressions, or a line to fall back to. -/
def lastLine (line : Nat) (parts : List Expression) : Nat :=
  (parts.reverse.findSome? Expression.line?).getD line

def isLiteral : Expression → Bool
  | literal _ _ => true
  | _ => false

/-- The line of a list or dict: none if all parts are literals. -/
def listLine (line : Nat) (parts : List Expression) : Option Nat :=
  if parts.all isLiteral then none else some (lastLine line parts)

/-- Read operands with operators of one level between them, grouping to the
left. -/
def chain (operator? : Token → Option BinaryOperator)
    (operand : Reader Expression) : Reader Expression := fun words => do
  let line := lineOf 0 words
  let (left, rest) ← operand words
  go line (rest.length + 1) left rest
where
  go (line : Nat) : Nat → Expression → Reader Expression
    | 0, _, words => fail words
    | fuel + 1, left, words =>
        match words with
        | word :: rest =>
            match operator? word.token with
            | some operator => do
                let (right, rest) ← operand rest
                go line fuel
                  (binary operator left right (lastLine line [left, right]))
                  rest
            | none => .ok (left, words)
        | [] => .ok (left, [])

def powerOperator? : Token → Option BinaryOperator
  | .symbol "**" => some .power
  | _ => none

def productOperator? : Token → Option BinaryOperator
  | .symbol "*" => some .multiply
  | .symbol "/" => some .divide
  | .symbol "//" => some .divideWhole
  | .symbol "%" => some .remainder
  | _ => none

def concatenationOperator? : Token → Option BinaryOperator
  | .symbol "~" => some .concatenate
  | _ => none

def sumOperator? : Token → Option BinaryOperator
  | .symbol "+" => some .add
  | .symbol "-" => some .subtract
  | _ => none

def comparisonOperator? : Token → Option BinaryOperator
  | .symbol "==" => some .equal
  | .symbol "!=" => some .notEqual
  | .symbol "<" => some .less
  | .symbol "<=" => some .lessOrEqual
  | .symbol ">" => some .greater
  | .symbol ">=" => some .greaterOrEqual
  | .name "in" => some .contains
  | _ => none

/-- A comparison operator, and whether its result is reversed. -/
def readComparison :
    List Lexeme → Except Failure (Option (BinaryOperator × Bool × List Lexeme))
  | [] => .ok none
  | word :: rest =>
      match comparisonOperator? word.token with
      | some operator => .ok (some (operator, false, rest))
      | none =>
          if word.token = .name "not" then do
            let (_, rest) ← expectName "in" rest
            .ok (some (.contains, true, rest))
          else .ok none

/-- The comparisons after an operand.  Every one takes a word, so the length of
the text bounds their number. -/
def links (operand : Reader Expression) : Nat → Reader (List Link)
  | 0, words => fail words
  | fuel + 1, words => do
      match ← readComparison words with
      | some (operator, reversed, rest) =>
          let (right, after) ← operand rest
          let link :=
            Link.mk operator reversed right (lastLine (lineOf 0 rest) [right])
          let (others, rest) ← links operand fuel after
          .ok (link :: others, rest)
      | none => .ok ([], words)

/-- An operand, and the comparisons that it begins. -/
def comparisons (operand : Reader Expression) :
    Reader Expression := fun words => do
  let (first, rest) ← operand words
  let (links, rest) ← links operand (rest.length + 1) rest
  if links.isEmpty then .ok (first, rest)
  else
    let last := lastLine (lineOf 0 words) (first :: links.map Link.operand)
    .ok (compare first links last, rest)

/-- Any number of `not` before an operand. -/
def negations (operand : Reader Expression) : Nat → Reader Expression
  | 0, words => fail words
  | fuel + 1, words =>
      match skipName? "not" words with
      | some rest => do
          let (inner, after) ← negations operand fuel rest
          .ok (not inner (lastLine (lineOf 0 words) [inner]), after)
      | none => operand words

/-- Operands with `and` or `or` between them. -/
def connected (word : String)
    (connect : Expression → Expression → Nat → Expression)
    (operand : Reader Expression) : Reader Expression := fun words => do
  let line := lineOf 0 words
  let (left, rest) ← operand words
  go line (rest.length + 1) left rest
where
  go (line : Nat) : Nat → Expression → Reader Expression
    | 0, _, words => fail words
    | fuel + 1, left, words =>
        match skipName? word words with
        | some rest => do
            let (right, rest) ← operand rest
            go line fuel (connect left right (lastLine line [left, right])) rest
        | none => .ok (left, words)

/-- Conditions after a value under which it is taken.  What stands in its place
otherwise may have conditions of its own. -/
def conditionsAfter (operand : Reader Expression) (line : Nat) :
    Nat → Expression → Reader Expression
  | 0, _, words => fail words
  | fuel + 1, value, words =>
      match skipName? "if" words with
      | none => .ok (value, words)
      | some rest => do
          let (condition, rest) ← operand rest
          match skipName? "else" rest with
          | some rest => do
              let (other, after) ← operand rest
              let (whenFalse, rest) ← conditionsAfter operand
                  (lineOf 0 rest) fuel other after
              conditionsAfter operand line fuel
                (conditional condition value (some whenFalse)
                (lastLine line [condition, value, whenFalse])) rest
          | none =>
              conditionsAfter operand line fuel
                (conditional condition value none
                (lastLine line [condition, value])) rest

/-- A value, and conditions after it.  Every condition takes a word, so the
length of the text bounds their number. -/
def conditionals (operand : Reader Expression) :
    Reader Expression := fun words => do
  let (value, rest) ← operand words
  conditionsAfter operand (lineOf 0 words) (rest.length + 1) value rest

/-- One argument: a value, or a name with a value. -/
def argument (full simple : Reader Expression) :
    Reader Argument := fun words => do
  let (value, rest) ← full words
  match value, skipSymbol? "=" rest with
  | reference name _, some rest => do
      let (value, rest) ← simple rest
      .ok (.keyword name value, rest)
  | value, _ => .ok (.positional value, rest)

/-- No value without a name follows one with a name. -/
def wellOrdered : List Argument → Bool
  | [] => true
  | .positional _ :: rest => wellOrdered rest
  | .keyword _ _ :: rest => rest.all fun argument =>
      match argument with
      | .keyword _ _ => true
      | .positional _ => false

/-- Arguments after their opening bracket. -/
def arguments (full simple : Reader Expression) :
    Reader (List Argument) := fun words => do
  let (items, rest) ← itemsUntil ")" (argument full simple)
      (words.length + 1) true words
  if wellOrdered items then .ok (items, rest) else .error .malformed

/-- Arguments in brackets, or none. -/
def optionalArguments (full simple : Reader Expression) :
    Reader (List Argument) := fun words =>
  match skipSymbol? "(" words with
  | some rest => arguments full simple rest
  | none => .ok ([], words)

/-- The line of a call: that of its last argument. -/
def callLine (line : Nat) (subject : Option Expression)
    (arguments : List Argument) : Nat :=
  lastLine line (subject.toList ++ arguments.map Argument.value)

/-- A call, told apart by what is called. -/
def makeCall (line : Nat) (subject : Expression) (arguments : List Argument) :
    Expression :=
  match subject with
  | reference name _ => call name arguments (callLine line none arguments)
  | member owner name _ =>
      callMethod owner name arguments (callLine line (some owner) arguments)
  | subject =>
      callValue subject arguments (callLine line (some subject) arguments)

/-- A part of a subscript, unless one of the given symbols is next. -/
def unlessSymbol (stops : List String) (full : Reader Expression) :
    Reader (Option Expression) := fun words =>
  if stops.any fun stop => (skipSymbol? stop words).isSome then
    .ok (none, words)
  else do
    let (value, rest) ← full words
    .ok (some value, rest)

/-- A subscript after its opening bracket: a key, or the parts of a slice. -/
def subscript (full : Reader Expression) (line : Nat) (subject : Expression) :
    Reader Expression := fun words => do
  let (start, rest) ← unlessSymbol [":"] full words
  match skipSymbol? ":" rest with
  | some rest => do
      let (stop, rest) ← unlessSymbol ["]", ":"] full rest
      let (step, rest) ←
        match skipSymbol? ":" rest with
        | some rest => unlessSymbol ["]"] full rest
        | none => .ok (none, rest)
      let (_, rest) ← expectSymbol "]" rest
      .ok (slice subject start stop step
        (lastLine line (subject :: start.toList ++ stop.toList ++ step.toList)),
          rest)
  | none => do
      let (_, rest) ← expectSymbol "]" rest
      match start with
      | some key => .ok (item subject key (lastLine line [subject, key]), rest)
      | none => .error .malformed

/-- Members, subscripts and calls after an operand. -/
def suffixes (full simple : Reader Expression) :
    Nat → Nat → Expression → Reader Expression
  | 0, _, _, words => fail words
  | fuel + 1, line, subject, words =>
      let next := lineOf line words
      match skipSymbol? "." words with
      | some (⟨.name name, _⟩ :: rest) =>
          suffixes full simple fuel
            next (member subject name (lastLine line [subject])) rest
      | some (⟨.integer n, keyLine⟩ :: rest) =>
          suffixes full simple fuel
            next (item subject (literal (.integer n) keyLine) keyLine) rest
      | some rest => fail rest
      | none =>
          match skipSymbol? "[" words with
          | some rest => do
              let (result, rest) ← subscript full line subject rest
              suffixes full simple fuel next result rest
          | none =>
              match skipSymbol? "(" words with
              | some rest => do
                  let (arguments, rest) ← arguments full simple rest
                  suffixes full simple fuel
                    next (makeCall line subject arguments) rest
              | none => .ok (subject, words)

/-- The parts of a name after its first, each after a point. -/
def furtherParts : Nat → Reader String
  | 0, words => fail words
  | fuel + 1, words =>
      match skipSymbol? "." words with
      | some rest => do
          let ((part, _), rest) ← anyName rest
          let (more, rest) ← furtherParts fuel rest
          .ok (String.join [".", part, more], rest)
      | none => .ok ("", words)

/-- The name of a filter or test: names with points between them. -/
def dottedName : Reader (String × Nat) := fun words => do
  let ((first, line), rest) ← anyName words
  let (more, rest) ← furtherParts (rest.length + 1) rest
  .ok ((first ++ more, line), rest)

/-- A filter after its bar: a name and perhaps arguments. -/
def filterCall (full simple : Reader Expression) (subject : Expression) :
    Reader Expression := fun words => do
  let ((name, line), rest) ← dottedName words
  let (arguments, rest) ← optionalArguments full simple rest
  .ok (filter subject name arguments (callLine line (some subject) arguments),
    rest)

/-- Whether a word can begin an argument without brackets. -/
def beginsArgument : List Lexeme → Bool
  | word :: _ =>
      match word.token with
      | .name name => !(["and", "or", "else", "is"].contains name)
      | .string _ => true
      | .integer _ => true
      | .float _ => true
      | .symbol s => ["+", "-", "[", "\x7b"].contains s
      | .unreadable _ => false
  | [] => false

/-- A test after the word `is`: perhaps a reversal, a name and arguments, of
which a single one needs no brackets. -/
def testCall (full simple operand : Reader Expression) (subject : Expression) :
    Reader Expression := fun words => do
  let (reversed, words) :=
    match skipName? "not" words with
    | some rest => (true, rest)
    | none => (false, words)
  let ((name, line), rest) ← dottedName words
  let (arguments, rest) ←
    match skipSymbol? "(" rest with
    | some rest => arguments full simple rest
    | none =>
        if beginsArgument rest then do
          let (value, rest) ← operand rest
          .ok ([Argument.positional value], rest)
        else .ok ([], rest)
  let last := callLine line (some subject) arguments
  let result := test subject name arguments last
  .ok (if reversed then not result last else result, rest)

/-- Filters and tests after an operand. -/
def filters (full simple operand : Reader Expression) :
    Nat → Expression → Reader Expression
  | 0, _, words => fail words
  | fuel + 1, subject, words =>
      match skipSymbol? "|" words with
      | some rest => do
          let (result, rest) ← filterCall full simple subject rest
          filters full simple operand fuel result rest
      | none =>
          match skipName? "is" words with
          | some rest => do
              let (result, rest) ← testCall full simple operand subject rest
              filters full simple operand fuel result rest
          | none => .ok (subject, words)

/-- Any number of minus signs before an operand. -/
def signs (operand : Reader Expression) : Nat → Reader Expression
  | 0, words => fail words
  | fuel + 1, words =>
      match skipSymbol? "-" words with
      | some rest => do
          let (inner, after) ← signs operand fuel rest
          .ok (negate inner (lastLine (lineOf 0 words) [inner]), after)
      | none => operand words

/-- An operand with its signs and suffixes. -/
def suffixedWith (primary full simple : Reader Expression) :
    Reader Expression := fun words => do
  let (value, rest) ← signs primary (words.length + 1) words
  suffixes full simple (rest.length + 1) (lineOf 0 words) value rest

/-- An operand with its signs, suffixes, filters and tests. -/
def operandWith (primary full simple : Reader Expression) :
    Reader Expression := fun words => do
  let (value, rest) ← suffixedWith primary full simple words
  filters full simple (suffixedWith primary full simple)
    (rest.length + 1) value rest

/-- Everything but conditions: all operators. -/
def operatorsWith (operand : Reader Expression) : Reader Expression :=
  connected "or" or <| connected "and" and <|
    (fun words => negations (comparisons <| chain sumOperator? <|
      chain concatenationOperator? <| chain productOperator? <|
        chain powerOperator? operand)
        (words.length + 1) words)

/-- Neighbouring strings are one. -/
def adjacentStrings : List Lexeme → List Char × List Lexeme
  | ⟨.string text, _⟩ :: rest =>
      let (more, rest) := adjacentStrings rest
      (text ++ more, rest)
  | words => ([], words)

/-- The value of a name that is a literal. -/
def literalName? : String → Option Literal
  | "true" => some (.bool true)
  | "True" => some (.bool true)
  | "false" => some (.bool false)
  | "False" => some (.bool false)
  | "none" => some .none
  | "None" => some .none
  | _ => none

/-- A key and a value with a colon between them. -/
def entry (full : Reader Expression) :
    Reader (Expression × Expression) := fun words => do
  let (key, rest) ← full words
  let (_, rest) ← expectSymbol ":" rest
  let (value, rest) ← full rest
  .ok ((key, value), rest)

/-- The rest after an opening round bracket: one expression, or a list if there
is a comma or nothing. -/
def grouped (full : Reader Expression) (line : Nat) :
    Reader Expression := fun words =>
  match skipSymbol? ")" words with
  | some rest => .ok (list [] none, rest)
  | none => do
      let (first, rest) ← full words
      match skipSymbol? ")" rest with
      | some rest => .ok (first, rest)
      | none => do
          let (others, rest) ← itemsUntil ")" full (rest.length + 1) false rest
          let items := first :: others
          .ok (list items (listLine line items), rest)

/-- A literal, name, list, dict or bracketed expression. -/
def primaryWith (full : Reader Expression) : Reader Expression := fun words =>
  match words with
  | [] => fail words
  | word :: rest =>
      match word.token with
      | .name name =>
          match literalName? name with
          | some value => .ok (literal value word.line, rest)
          | none => .ok (reference name word.line, rest)
      | .integer n => .ok (literal (.integer n) word.line, rest)
      | .float x => .ok (literal (.float x) word.line, rest)
      | .string _ =>
          let (text, rest) := adjacentStrings words
          .ok (literal (.string text) word.line, rest)
      | .symbol "(" => grouped full word.line rest
      | .symbol "[" => do
          let (items, rest) ← itemsUntil "]" full (rest.length + 1) true rest
          .ok (list items (listLine word.line items), rest)
      | .symbol "\x7b" => do
          let (entries, rest) ← itemsUntil "\x7d" (entry full)
              (rest.length + 1) true rest
          let parts := entries.flatMap fun (key, value) => [key, value]
          .ok (dict entries (listLine word.line parts), rest)
      | _ => fail words

/-- The deepest nesting of expressions and statements. -/
def maxDepth : Nat := 150

/-- Read an expression within a remaining depth.  An expression takes one level
and each of its operands another. -/
def read : Nat → Reader Expression
  | 0 => fun _ => .error .malformed
  | 1 => fun _ => .error .malformed
  | depth + 2 =>
      let operators := operatorsWith
        (operandWith (primaryWith (read depth)) (read (depth + 1))
          (read (depth + 1)))
      fun words => conditionals operators words

/-- Read an expression without a condition within a remaining depth. -/
def readSimple : Nat → Reader Expression
  | 0 => fun _ => .error .malformed
  | depth + 1 =>
      operatorsWith
        (operandWith (primaryWith (read depth)) (read (depth + 1))
          (read (depth + 1)))

end Expression

end Stencil.Template
