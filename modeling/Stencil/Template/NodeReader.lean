/-
Reading statements.  A statement tag names its statement; some statements own
the segments up to their closing tag.
-/
import Stencil.Template.ExpressionReader
import Stencil.Template.Segment

namespace Stencil.Template

open Reader

namespace Target

/-- Names that cannot be assigned to. -/
def reservedNames : List String :=
  ["true", "True", "false", "False", "none", "None", "loop", "self"]

/-- A name that can be assigned to. -/
def readName : Reader String := fun words => do
  let ((name, _), rest) ← anyName words
  if reservedNames.contains name then .error .malformed else .ok (name, rest)

/-- A name, perhaps with members after it. -/
def readMember : Reader Target := fun words => do
  let (owner, rest) ← readName words
  go owner false (rest.length + 1) rest
where
  go (owner : String) (isMember : Bool) : Nat → Reader Target
    | 0, words => fail words
    | fuel + 1, words =>
        match skipSymbol? "." words with
        | some rest => do
            let (_, rest) ← anyName rest
            go owner true fuel rest
        | none => .ok (if isMember then .member owner else .bare owner, words)

/-- Whether a list of targets may stop before the next word. -/
def mayStop (words : List Lexeme) : Bool :=
  words.isEmpty || (skipSymbol? ")" words).isSome ||
    (skipName? "in" words).isSome

/-- Names and bracketed targets with commas between them: the targets, and
whether there was a comma. -/
def readItems (nested : Reader Target) : Nat → Reader (List Target × Bool)
  | 0, words => fail words
  | fuel + 1, words => do
      let (first, rest) ←
        match skipSymbol? "(" words with
        | some rest => do
            let (target, rest) ← nested rest
            let (_, rest) ← expectSymbol ")" rest
            .ok (target, rest)
        | none => do
            let (name, rest) ← readName words
            .ok (Target.bare name, rest)
      match skipSymbol? "," rest with
      | none => .ok (([first], false), rest)
      | some rest =>
          if mayStop rest then .ok (([first], true), rest)
          else do
            let ((others, _), rest) ← readItems nested fuel rest
            .ok ((first :: others, true), rest)

/-- A target, or several that take the items of a value apart. -/
def read : Nat → Reader Target
  | 0, words => fail words
  | depth + 1, words =>
      if mayStop words then .ok (.tuple [], words)
      else do
        let ((items, hasComma), rest) ← readItems (read depth)
            (words.length + 1) words
        match items, hasComma with
        | [target], false => .ok (target, rest)
        | items, _ => .ok (.tuple items, rest)

/-- The target of an assignment: several targets, or a name that may have
members. -/
def readAssigned : Reader Target := fun words => do
  if mayStop words then fail words
  else
    match words with
    | ⟨.name _, _⟩ :: ⟨.symbol ".", _⟩ :: _ => readMember words
    | words => read (words.length + 1) words

end Target

/-- The tag at which a body ended: its name and the words after it. -/
abbrev StopTag := Option (String × List Lexeme)

/-- A reader of the segments of a body up to one of some closing tags. -/
abbrev BodyReader := List String → List Segment →
  Except Failure (List Node × StopTag × List Segment)

/-- A reader of one statement: the words of its tag and the segments after
it. -/
abbrev StatementReader := List Lexeme → Nat → List Segment →
  Except Failure (Node × List Segment)

namespace Node

/-- Read an expression that fills a tag. -/
def wholeTag (full : Reader Expression) (words : List Lexeme) :
    Except Failure Expression := do
  let (value, rest) ← full words
  expectEnd rest
  .ok value

/-- Read segments up to a closing tag or the end of the template. -/
def bodyWith (full : Reader Expression) (statement : StatementReader)
    (stops : List String) :
    Nat → List Segment → Except Failure (List Node × StopTag × List Segment)
  | 0, _ => .error .malformed
  | _, [] => .ok ([], none, [])
  | fuel + 1, .text cs :: rest => do
      let (nodes, stop, rest) ← bodyWith full statement stops fuel rest
      .ok (.text cs :: nodes, stop, rest)
  | fuel + 1, .output words line :: rest => do
      let value ← wholeTag full words
      let (nodes, stop, rest) ← bodyWith full statement stops fuel rest
      .ok (.output value (value.line?.getD line) :: nodes, stop, rest)
  | fuel + 1, .statement words line :: rest =>
      match words with
      | ⟨.name word, _⟩ :: more =>
          if stops.contains word then .ok ([], some (word, more), rest)
          else do
            let (node, rest) ← statement words line rest
            let (nodes, stop, rest) ← bodyWith full statement stops fuel rest
            .ok (node :: nodes, stop, rest)
      | _ => .error (failureAt words)
  | _, .broken :: _ => .error .malformed

/-- Read a body that one closing tag must end. -/
def closedBody (body : BodyReader) (close : String) (segments : List Segment) :
    Except Failure (List Node × List Segment) := do
  let (nodes, stop, rest) ← body [close] segments
  match stop with
  | some (_, words) => do
      expectEnd words
      .ok (nodes, rest)
  | none => .error .malformed

/-- A condition, what holds under it, and what holds otherwise.  The condition
has no conditions of its own. -/
def readBranch (simple : Reader Expression) (body : BodyReader) :
    Nat → List Lexeme → Nat → List Segment →
      Except Failure (Node × List Segment)
  | 0, words, _, _ => .error (failureAt words)
  | fuel + 1, words, line, segments => do
      let condition ← wholeTag simple words
      let (whenTrue, stop, rest) ← body ["endif", "else", "elif"] segments
      let line := condition.line?.getD line
      match stop with
      | some ("else", more) => do
          expectEnd more
          let (whenFalse, rest) ← closedBody body "endif" rest
          .ok (.branch condition whenTrue whenFalse line, rest)
      | some ("elif", more) => do
          let (inner, rest) ← readBranch simple body fuel more
              (lineOf line more) rest
          .ok (.branch condition whenTrue [inner] line, rest)
      | some (_, more) => do
          expectEnd more
          .ok (.branch condition whenTrue [] line, rest)
      | none => .error .malformed

/-- A loop with its target, items, condition and bodies. -/
def readLoop (full simple : Reader Expression) (body : BodyReader)
    (words : List Lexeme) (line : Nat) (segments : List Segment) :
    Except Failure (Node × List Segment) := do
  let (target, rest) ← Target.read (words.length + 1) words
  let (_, rest) ← expectName "in" rest
  let (items, rest) ← simple rest
  let (condition, rest) ←
    match skipName? "if" rest with
    | some rest => do
        let (condition, rest) ← full rest
        .ok (some condition, rest)
    | none => .ok (none, rest)
  expectEnd ((skipName? "recursive" rest).getD rest)
  let (nodes, stop, segments) ← body ["endfor", "else"] segments
  let line := items.line?.getD line
  match stop with
  | some ("else", more) => do
      expectEnd more
      let (otherwise, segments) ← closedBody body "endfor" segments
      .ok (.loop target items condition nodes otherwise line, segments)
  | some (_, more) => do
      expectEnd more
      .ok (.loop target items condition nodes [] line, segments)
  | none => .error .malformed

/-- Filters with bars between them, applied to the held text. -/
def filterChain (full : Reader Expression) (line : Nat) (words : List Lexeme) :
    Except Failure Expression :=
  go (words.length + 1) (.held line) words
where
  go : Nat → Expression → List Lexeme → Except Failure Expression
    | 0, _, words => .error (failureAt words)
    | fuel + 1, subject, words => do
        let (value, rest) ← Expression.filterCall full full subject words
        match rest with
        | [] => .ok value
        | rest => do
            let (_, rest) ← expectSymbol "|" rest
            go fuel value rest

/-- The values after the first that fill a tag, each after a comma; a comma may
also end them. -/
def furtherValues (full : Reader Expression) :
    Nat → List Lexeme → Except Failure (List Expression)
  | _, [] => .ok []
  | 0, words => .error (failureAt words)
  | fuel + 1, words => do
      let (_, rest) ← expectSymbol "," words
      if rest.isEmpty then .ok []
      else do
        let (value, rest) ← full rest
        let others ← furtherValues full fuel rest
        .ok (value :: others)

/-- The value that fills a tag.  A comma makes it a list. -/
def assignedValue (full : Reader Expression) (words : List Lexeme) :
    Except Failure Expression := do
  let (first, rest) ← full words
  if rest.isEmpty then .ok first
  else do
    let items := first :: (← furtherValues full (rest.length + 1) rest)
    .ok (.list items (Expression.listLine (lineOf 0 words) items))

/-- An assignment of a value or of a body. -/
def readAssignment (full : Reader Expression) (body : BodyReader)
    (words : List Lexeme) (line : Nat) (segments : List Segment) :
    Except Failure (Node × List Segment) := do
  let (target, rest) ← Target.readAssigned words
  match skipSymbol? "=" rest with
  | some rest => do
      let value ← assignedValue full rest
      .ok (.assign target value (value.line?.getD line), segments)
  | none => do
      let filter ←
        match skipSymbol? "|" rest with
        | some rest => do .ok (some (← filterChain full line rest))
        | none => do
            expectEnd rest
            .ok none
      let (nodes, segments) ← closedBody body "endset" segments
      .ok (.capture target filter nodes line, segments)

/-- Assignments with commas between them. -/
def readAssignments (full : Reader Expression) :
    Nat → Bool → List Lexeme → Except Failure (List (Target × Expression))
  | _, _, [] => .ok []
  | 0, _, words => .error (failureAt words)
  | fuel + 1, isFirst, words => do
      let words ←
        if isFirst then .ok words
        else do
          let (_, rest) ← expectSymbol "," words
          .ok rest
      let (target, rest) ←
        match skipSymbol? "(" words with
        | some rest => do
            let (target, rest) ← Target.read (rest.length + 1) rest
            let (_, rest) ← expectSymbol ")" rest
            .ok (target, rest)
        | none => do
            let (name, rest) ← Target.readName words
            .ok (Target.bare name, rest)
      let (_, rest) ← expectSymbol "=" rest
      let (value, rest) ← full rest
      let others ← readAssignments full fuel false rest
      .ok ((target, value) :: others)

/-- A block with its name, which the closing tag may repeat. -/
def readBlock (body : BodyReader) (words : List Lexeme)
    (segments : List Segment) : Except Failure (Node × List Segment) := do
  let ((name, _), rest) ← anyName words
  expectEnd rest
  let (nodes, stop, segments) ← body ["endblock"] segments
  match stop with
  | some (_, more) => do
      expectEnd ((skipName? name more).getD more)
      .ok (.block name nodes, segments)
  | none => .error .malformed

/-- Parameters after an opening bracket.  After one with a default all have
one. -/
def readParameters (full : Reader Expression) :
    Reader (List Parameter) := fun words => do
  let (parameters, rest) ← itemsUntil ")" parameter
      (words.length + 1) true words
  let afterDefault := parameters.dropWhile fun p => p.default.isNone
  if afterDefault.all fun p => p.default.isSome then .ok (parameters, rest)
  else .error .malformed
where
  parameter : Reader Parameter := fun words => do
    let (name, rest) ← Target.readName words
    match skipSymbol? "=" rest with
    | some rest => do
        let (value, rest) ← full rest
        .ok (⟨name, some value⟩, rest)
    | none => .ok (⟨name, none⟩, rest)

/-- A routine with its name, parameters and body. -/
def readRoutine (full : Reader Expression) (body : BodyReader)
    (words : List Lexeme) (segments : List Segment) :
    Except Failure (Node × List Segment) := do
  let ((name, _), rest) ← anyName words
  let (_, rest) ← expectSymbol "(" rest
  let (parameters, rest) ← readParameters full rest
  expectEnd rest
  let (nodes, segments) ← closedBody body "endmacro" segments
  .ok (.routine name parameters nodes, segments)

/-- The words that say how an insertion treats a missing template and which
names it sees. -/
def insertOptions (words : List Lexeme) : Except Failure Bool := do
  let (optional, rest) ←
    match skipName? "ignore" words with
    | some rest => do
        let (_, rest) ← expectName "missing" rest
        .ok (true, rest)
    | none => .ok (false, words)
  let rest ←
    match (skipName? "with" rest).orElse fun _ => skipName? "without" rest with
    | some rest => do
        let (_, rest) ← expectName "context" rest
        .ok rest
    | none => .ok rest
  expectEnd rest
  .ok optional

/-- Names to take over, each perhaps under another name. -/
def importedNames : Nat → Reader Unit
  | 0, words => fail words
  | fuel + 1, words => do
      let (_, rest) ← anyName words
      let rest ←
        match skipName? "as" rest with
        | some rest => do
            let (_, rest) ← Target.readName rest
            .ok rest
        | none => .ok rest
      match skipSymbol? "," rest with
      | some [] => .ok ((), [])
      | some rest => importedNames fuel rest
      | none => .ok ((), rest)

/-- Whether an expression is a call. -/
def isCall : Expression → Bool
  | .call _ _ _ => true
  | .callMethod _ _ _ _ => true
  | .callValue _ _ _ => true
  | _ => false

/-- One statement, given how to read expressions and bodies. -/
def statementWith (full simple : Reader Expression) (body : BodyReader) :
    StatementReader :=
  fun words line segments =>
    match words with
    | ⟨.name "if", _⟩ :: rest =>
        readBranch simple body (segments.length + 1) rest line segments
    | ⟨.name "for", _⟩ :: rest => readLoop full simple body rest line segments
    | ⟨.name "set", _⟩ :: rest => readAssignment full body rest line segments
    | ⟨.name "with", _⟩ :: rest => do
        let assignments ← readAssignments full (rest.length + 1) true rest
        let (nodes, segments) ← closedBody body "endwith" segments
        .ok (.scope assignments nodes line, segments)
    | ⟨.name "filter", _⟩ :: rest => do
        let filter ← filterChain full line rest
        let (nodes, segments) ← closedBody body "endfilter" segments
        .ok (.filtered filter nodes line, segments)
    | ⟨.name "block", _⟩ :: rest => readBlock body rest segments
    | ⟨.name "macro", _⟩ :: rest => readRoutine full body rest segments
    | ⟨.name "include", _⟩ :: rest => do
        let (source, rest) ← full rest
        let optional ← insertOptions rest
        .ok (.insert source optional (source.line?.getD line), segments)
    | ⟨.name "extends", _⟩ :: rest => do
        let source ← wholeTag full rest
        .ok (.extend source (source.line?.getD line), segments)
    | ⟨.name "import", _⟩ :: rest => do
        let (source, rest) ← full rest
        let (_, rest) ← expectName "as" rest
        let (_, rest) ← Target.readName rest
        expectEnd rest
        .ok (.insert source false (source.line?.getD line), segments)
    | ⟨.name "from", _⟩ :: rest => do
        let (source, rest) ← full rest
        let (_, rest) ← expectName "import" rest
        let (_, rest) ← importedNames (rest.length + 1) rest
        expectEnd rest
        .ok (.insert source false (source.line?.getD line), segments)
    | ⟨.name "do", _⟩ :: rest => do
        let value ← wholeTag full rest
        if isCall value then .ok (.perform value (value.line?.getD line),
          segments)
        else .error .malformed
    | words => .error (failureAt words)

/-- One statement within a remaining depth. -/
def readStatement : Nat → StatementReader
  | 0 => fun _ _ _ => .error .malformed
  | depth + 1 =>
      statementWith (Expression.read depth) (Expression.readSimple depth)
        fun stops segments =>
          bodyWith (Expression.read depth) (readStatement depth) stops
            (segments.length + 1) segments

/-- The statements of a template.  A block is defined once and not within a
routine. -/
def ofSegments (segments : List Segment) : Except Failure (List Node) := do
  let depth := Expression.maxDepth
  let (nodes, _, _) ←
    bodyWith (Expression.read depth) (readStatement depth) []
      (segments.length + 1) segments
  let names := blockNamesOf nodes
  if names.eraseDups.length = names.length && keepBlocksOut nodes then .ok nodes
  else .error .malformed

end Node

end Stencil.Template
