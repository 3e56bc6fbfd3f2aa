/-
Evaluation of expressions and statements.  Both follow their structure; how a
routine is called is a parameter, so that calls can be bounded separately.
-/
import Stencil.Template.Filter
import Stencil.Template.Machine
import Stencil.Template.Test
import Stencil.Time.Pattern

namespace Stencil.Template

/-- How a routine is called: at a line, with its closure and what is passed. -/
abbrev Caller := Nat → Routine → Nat → Passed → Eval Value

/-- The value that is written out. -/
def Literal.toValue : Literal → Value
  | .none => .nothing
  | .bool b => .bool b
  | .integer n => .integer n
  | .float x => .float x
  | .string cs => .ofChars cs

namespace Evaluation

open Eval

/-- How many steps lead from a bound up or down to another. -/
def stepCount (lower upper step : Int) : Nat :=
  let distance := if 0 < step then upper - lower else lower - upper
  ((distance + step.natAbs - 1) / step.natAbs).toNat

/-- A range of integers, at most a hundred thousand. -/
def range (p : Passed) : Outcome Value := do
  let first ← (← p.required 0).mustFit Value.int64
  let last ← p.optional 1 (Value.mustFit Value.int64)
  let step := (← p.optional 2 (Value.mustFit Value.int64)).getD 1
  p.atMost 3
  if step = 0 then Value.invalid "cannot create range with step of 0"
  else
    let (lower, upper) :=
      match last with
      | some last => (first, last)
      | none => (0, first)
    let count := stepCount lower upper step
    if 100000 < count then Value.invalid "range has too many elements"
    else .ok (.iterator ((List.range count).map fun (i : Nat) =>
      .integer (lower + step * i)) true)

/-- A map with entries added or replaced. -/
def extendedMap (p : Passed) : Outcome Value :=
  match p.values with
  | [] => .ok (Value.ofEntries p.namedEntries)
  | [.nothing] => .ok (Value.ofEntries p.namedEntries)
  | [.dict entries] => .ok (Value.ofEntries (entries ++ p.namedEntries))
  | [.undefined _] => .error .undefinedValue
  | [_] => .error (.invalidOperation none)
  | _ => .error (.tooManyArguments none)

/-- Call a function that is defined everywhere. -/
def callBuiltin (name : String) (p : Passed) : Outcome Value :=
  match name with
  | "range" => range p
  | _ => extendedMap p

/-- Call a value. -/
def callValue (call : Caller) (line : Nat) (value : Value) (p : Passed) :
    Eval Value :=
  match value with
  | .routine r closure => call line r closure p
  | .builtin name => report line (callBuiltin name p)
  | value =>
      match value.kind with
      | .plainObject =>
          fault line (.invalidOperation (some "object is not callable"))
      | .sequence =>
          fault line (.invalidOperation (some "object is not callable"))
      | .map => fault line (.invalidOperation (some "object is not callable"))
      | .iterator =>
          fault line (.invalidOperation (some "object is not callable"))
      | kind =>
          fault line
            (.invalidOperation
              (some ("value of type " ++ kind.word ++ " is not callable")))

/-- Call a name. -/
def callName (call : Caller) (line : Nat) (name : String) (p : Passed) :
    Eval Value := do
  if name = "loop" then
    fault line
      (.invalidOperation (some "cannot recurse outside of recursive loop"))
  else
    match (← get).lookup? name with
    | some value => callValue call line value p
    | none => fault line (.unknownFunction name)

/-- The methods of timestamps. -/
def datetimeMethod (m : Moment) (name : String) (p : Passed) : Outcome Value :=
  match name with
  | "strftime" => do
      let pattern ← (← p.required 0).asString
      p.atMost 1
      match m.format? (String.ofList pattern) with
      | some text => .ok (.ofChars text.toList)
      | none =>
          Value.invalid ("invalid strftime pattern: " ++ String.ofList pattern)
  | "isoformat" => do
      p.atMost 0
      .ok (.ofChars m.isoText.toList)
  | _ => .error (.unknownMethod ValueKind.plainObject.word name)

/-- The methods of the state of a loop. -/
def loopMethod (index : Nat) (name : String) (p : Passed) : Outcome Value :=
  match name with
  | "cycle" => .ok (Value.ofOption p.values[index % p.values.length]?)
  | _ => .error (.unknownMethod "loop object" name)

/-- Call a method: one of the value's own, or a member that can be called. -/
def callMethod (call : Caller) (line : Nat) (subject : Value) (name : String)
    (p : Passed) : Eval Value :=
  match subject with
  | .datetime m => report line (datetimeMethod m name p)
  | .loopState index _ _ _ => report line (loopMethod index name p)
  | subject =>
      match subject.member? name with
      | some member => callValue call line member p
      | none => fault line (.unknownMethod subject.kind.word name)

/-- Apply an operator; membership in an undefined value is an error. -/
def operate (line : Nat) (operator : BinaryOperator) (a b : Value) :
    Eval Value :=
  report line (Value.apply operator a b)

/-- A value at a place in the code, or nothing. -/
def orNothing (value : Option Value) : Value :=
  value.getD .nothing

mutual

/-- The value of an expression. -/
def expression (call : Caller) : Expression → Eval Value
  | .literal value _ => pure value.toValue
  | .reference name _ => do pure (Value.ofOption ((← get).lookup? name))
  | .held _ => do pure (← get).held
  | .list items _ => do pure (.sequence (← expressions call items))
  | .dict entries _ => do pure (Value.ofEntries (← pairs call entries))
  | .not operand line => do
      let value ← expression call operand
      pure (.bool !(← truth line value))
  | .negate operand line => do
      let value ← expression call operand
      report line value.negate
  | .binary operator left right line => do
      let a ← expression call left
      let b ← expression call right
      operate line operator a b
  | .compare first comparisons _ => do
      let value ← expression call first
      pure (.bool (← links call value comparisons))
  | .and left right line => do
      let a ← expression call left
      if ← truth (left.line?.getD line) a then expression call right else pure a
  | .or left right line => do
      let a ← expression call left
      if ← truth (left.line?.getD line) a then pure a else expression call right
  | .conditional condition whenTrue whenFalse line => do
      let c ← expression call condition
      if ← truth (condition.line?.getD line) c then expression call whenTrue
      else
        match ← optional call whenFalse with
        | some value => pure value
        | none => pure (.undefined true)
  | .member subject name line => do
      let value ← expression call subject
      part line value (value.member? name)
  | .item subject key line => do
      let value ← expression call subject
      let key ← expression call key
      part line value (value.item? key)
  | .slice subject start stop step line => do
      let value ← expression call subject
      let start ← optional call start
      let stop ← optional call stop
      let step ← optional call step
      report line
        (value.slice (orNothing start) (orNothing stop) (orNothing step))
  | .call name arguments line => do
      let p ← passed call arguments
      callName call line name p
  | .callMethod subject name arguments line => do
      let value ← expression call subject
      let p ← passed call arguments
      callMethod call line value name p
  | .callValue subject arguments line => do
      let value ← expression call subject
      let p ← passed call arguments
      callValue call line value p
  | .filter subject name arguments line => do
      let value ← expression call subject
      let p ← passed call arguments
      report line (Filter.apply name value p)
  | .test subject name arguments line => do
      let value ← expression call subject
      let p ← passed call arguments
      pure (.bool (← report line (Test.apply name value p)))

def expressions (call : Caller) : List Expression → Eval (List Value)
  | [] => pure []
  | item :: rest => do
      let value ← expression call item
      pure (value :: (← expressions call rest))

def pairs (call : Caller) :
    List (Expression × Expression) → Eval (List (Value × Value))
  | [] => pure []
  | (key, value) :: rest => do
      let k ← expression call key
      let v ← expression call value
      pure ((k, v) :: (← pairs call rest))

/-- Whether a value and the operands after it compare as they should; the first
comparison that fails ends the chain. -/
def links (call : Caller) (left : Value) : List Link → Eval Bool
  | [] => pure true
  | .mk operator reversed operand line :: rest => do
      let right ← expression call operand
      let outcome ← operate line operator left right
      if outcome.isTrue = reversed then pure false else links call right rest

def optional (call : Caller) : Option Expression → Eval (Option Value)
  | none => pure none
  | some e => do pure (some (← expression call e))

/-- The values of arguments. -/
def passed (call : Caller) : List Argument → Eval Passed
  | [] => pure .none
  | .positional e :: rest => do
      let value ← expression call e
      let p ← passed call rest
      pure { p with values := value :: p.values }
  | .keyword name e :: rest => do
      let value ← expression call e
      let p ← passed call rest
      pure { p with named := (name, value) :: p.named }

end

/-- The items that a value is taken apart into. -/
def unpack (line : Nat) (count : Nat) (value : Value) : Eval (List Value) :=
  match Value.listItems? value, value with
  | some (items, _), _ =>
      if items.length = count then pure items
      else fault line
        (.cannotUnpack ("sequence of wrong length (expected " ++
          toString count ++ ", got " ++ toString items.length ++ ")"))
  | none, .dict entries =>
      if entries.length = count then pure (entries.map Prod.fst)
      else fault line
        (.cannotUnpack ("sequence of wrong length (expected " ++
          toString count ++ ", got " ++ toString entries.length ++ ")"))
  | none, _ => fault line (.cannotUnpack "value is not iterable")

mutual

/-- Assign a value to a target. -/
def assign (line : Nat) : Target → Value → Eval Unit
  | .bare name, value => store name value
  | .member _, _ =>
      fault line (.invalidOperation (some "can only assign to namespaces"))
  | .tuple targets, value => do
      let items ← unpack line targets.length value
      assignAll line targets items

def assignAll (line : Nat) : List Target → List Value → Eval Unit
  | target :: targets, value :: values => do
      assign line target value
      assignAll line targets values
  | _, _ => pure ()

end

/-- The name under which a template was to be found, as it is shown. -/
def templateName (line : Nat) (source : Value) : Eval String :=
  match source with
  | .string cs _ => pure (String.ofList (Text.shown cs))
  | _ => fault line (.invalidOperation (some "template name was not a string"))

/-- The names under which a template was to be found, one after the other. -/
def templateNames (line : Nat) (source : Value) : Eval (List Value) :=
  let choices :=
    match source.kind with
    | .sequence => source.items?.getD []
    | .iterator => source.items?.getD []
    | .map => source.items?.getD []
    | .plainObject => []
    | _ => [source]
  if choices.all fun choice => choice.kind == .string then pure choices
  else fault line (.invalidOperation (some "template name was not a string"))

/-- No template was found under some names. -/
def missingTemplate (names : List Value) : Fault :=
  match names with
  | [name] => .noTemplateToInclude (String.ofList name.shown)
  | names => .noTemplatesToInclude (String.ofList (Value.sequence names).shown)

/-- The items of a loop for which its condition holds. -/
def admitted (call : Caller) (line : Nat) (target : Target)
    (condition : Option Expression) (items : List Value) : Eval (List Value) :=
  match condition with
  | none => pure items
  | some condition =>
      within line {} <| items.filterM fun item => do
        assign line target item
        truth (condition.line?.getD line) (← expression call condition)

/-- The items with their neighbours. -/
def neighbours (previous : Option Value) :
    List Value → List (Option Value × Value × Option Value)
  | [] => []
  | item :: rest => (previous, item, rest.head?) :: neighbours (some item) rest

mutual

/-- The text that a statement writes. -/
def node (call : Caller) : Node → Eval (List Char)
  | .text cs => pure cs
  | .output value line => do
      let value ← expression call value
      print line value
  | .branch condition whenTrue whenFalse line => do
      let c ← expression call condition
      if ← truth line c then nodes call whenTrue else nodes call whenFalse
  | .loop target items condition body otherwise line => do
      let source ← expression call items
      let visited ← admitted call line target condition
          (← report line source.asItems)
      if visited.isEmpty then nodes call otherwise
      else
        let count :=
          if condition.isSome || source.length?.isSome || source.isUndefined ||
            source.kind == .none then some visited.length else none
        within line {} <| do
          let texts ← (neighbours none visited).zipIdx.mapM
            fun ((previous, item, next), index) => do
              modify fun m =>
                match m.frames with
                | frame :: rest =>
                    let state := Value.loopState index count previous next
                    { m with
                      frames := { frame with loop := some state } :: rest }
                | [] => m
              assign line target item
              nodes call body
          pure texts.flatten
  | .assign target value line => do
      let value ← expression call value
      assign line target value
      pure []
  | .capture target filter body line => do
      let text ← nodes call body
      modify fun m => { m with held := .ofChars text }
      match filter with
      | some filter => assign line target (← expression call filter)
      | none => assign line target (.ofChars text)
      pure []
  | .scope assignments body line =>
      within line {} <| do
        assignments.forM fun (target, value) => do
          assign line target (← expression call value)
        nodes call body
  | .filtered filter body line => do
      let text ← nodes call body
      modify fun m => { m with held := .ofChars text }
      let value ← expression call filter
      print (filter.line?.getD line) value
  | .block _ body => within 1 {} (nodes call body)
  | .routine name parameters body => do
      let closure ← closureHere
      store name (.routine ⟨name, parameters, body⟩ closure)
      pure []
  | .insert source optional line => do
      let names ← templateNames line (← expression call source)
      if optional || names.isEmpty then pure []
        else fault line (missingTemplate names)
  | .extend source line => do
      let name ← templateName line (← expression call source)
      fault line (.noTemplateToExtend name)
  | .perform value _ => do
      let _ ← expression call value
      pure []

def nodes (call : Caller) : List Node → Eval (List Char)
  | [] => pure []
  | first :: rest => do
      let text ← node call first
      pure (text ++ (← nodes call rest))

end

/-- The value of a parameter: passed by place, by name, or not at all. -/
def parameterValue (line : Nat) (p : Passed) (i : Nat) (name : String) :
    Eval Value :=
  match p.values[i]?, p.named.lookup name with
  | some _, some _ =>
      fault line
      (.tooManyArguments (some ("duplicate argument " ++ quoted name)))
  | some value, none => pure value
  | none, some value => pure value
  | none, none => pure (.undefined false)
where
  quoted (name : String) : String := "\x60" ++ name ++ "\x60"

/-- Bind the parameters of a routine and run its body in a frame that sees only
its closure. -/
def routine (call : Caller) : Caller := fun line r closure p => do
  if r.parameters.length < p.values.length then
    fault line (.tooManyArguments none)
  else
    let values ← r.parameters.zipIdx.mapM fun (parameter, i) =>
      parameterValue line p i parameter.name
    match p.named.find? fun entry =>
      !(r.parameters.map (·.name)).contains entry.1 with
    | some entry =>
        fault line (.tooManyArguments
          (some ("unknown keyword argument " ++ parameterValue.quoted entry.1)))
    | none => do
        let m ← get
        let outside := m.depth + 4
        if Machine.maxDepth ≤ outside then
          fault line (.invalidOperation (some "recursion limit exceeded"))
        else
          set { m with frames := [{ base := some closure }], outside }
          (r.parameters.zip values).forM fun (parameter, value) => do
            let value ←
              match value, parameter.default with
              | .undefined _, some default => expression call default
              | value, _ => pure value
            store parameter.name value
          let text ← nodes call r.body
          modify fun after =>
            { after with frames := m.frames, outside := m.outside }
          pure (.ofChars text)

/-- Calls of routines within a remaining depth. -/
def caller : Nat → Caller
  | 0 => fun line _ _ _ =>
      fault line (.invalidOperation (some "recursion limit exceeded"))
  | depth + 1 => routine (caller depth)

end Evaluation

/-- Render statements with some names defined. -/
def Node.render (nodes : List Node) (names : Entries Value) :
    Except Failure (List Char) :=
  ((Evaluation.nodes (Evaluation.caller Machine.maxDepth) nodes).run
    { frames := [{ locals := names }] }).map Prod.fst

end Stencil.Template
