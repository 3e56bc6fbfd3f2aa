/-
Questions for the value of a variable.  A question is open until a key answers
it: a truth value takes one key, a line of text is edited until Enter, and a
choice has a cursor that moves over its rows and wraps around.
-/
import Stencil.Input.TypedValue
import Stencil.Prompt.Line
import Stencil.Schema.Variable

namespace Stencil

inductive Question where
  | truth (preset : Bool)
  | line (preset : Option String) (required : Bool) (line : Line)
  | choice (rows : List String) (cursor : Nat)
deriving DecidableEq, Repr

/-- What a key does to a question. -/
inductive Reply where
  | open (question : Question)
  | answer (value : Json)
deriving Repr

/-- Why a question got no answer. -/
inductive Unanswered where
  | notATerminal
  | endOfInput
  | interrupted
deriving DecidableEq, Repr

namespace Variable

/-- The line that asks for the variable. -/
def promptText (v : Variable) : String :=
  (if v.label = "" then v.name else v.label) ++
    (match v.placeholder with
      | some sample => " (e.g. " ++ sample ++ ")"
      | none => "") ++
    (if v.type = .array then " [comma or newline separated]" else "")

/-- The rows of a choice: the options, and in front of them a row that leaves a
variable empty unless it is required. -/
def rows (v : Variable) : List (Option String) :=
  if v.required then v.options.map some else none :: v.options.map some

/-- The values that the rows stand for. -/
def choiceRows (v : Variable) : List String :=
  v.rows.map (·.getD "")

/-- The texts by which the rows are shown. -/
def shownRows (v : Variable) : List String :=
  v.rows.map (·.getD "(none)")

/-- The row of the default, or the first row. -/
def presetRow (v : Variable) : Nat :=
  match v.effectiveDefault.bind fun preset =>
    v.options.findIdx? (· = preset) with
  | some i => if v.required then i else i + 1
  | none => 0

/-- The question for a value of the variable. -/
def question (v : Variable) : Question :=
  match v.type with
  | .boolean => .truth (v.default = some "true")
  | .select =>
      if v.options.isEmpty then .line v.effectiveDefault v.required .empty
      else .choice v.choiceRows v.presetRow
  | _ => .line v.effectiveDefault v.required .empty

/-- What is shown before the user answers. -/
def announcement (v : Variable) : List String :=
  (v.description.map ("  " ++ ·)).toList ++
    match v.question with
    | .truth _ => [v.label]
    | .line _ _ _ => [v.promptText]
    | .choice _ _ => v.label :: v.shownRows.map ("- " ++ ·)

end Variable

namespace Question

/-- The row below, or the first row below the last one. -/
def rowBelow (rows : List String) (cursor : Nat) : Nat :=
  (cursor + 1) % rows.length

/-- The row above, or the last row above the first one. -/
def rowAbove (rows : List String) (cursor : Nat) : Nat :=
  (cursor + (rows.length - 1)) % rows.length

/-- Finish a line.  An empty one stands for the default; without a default it
is asked for again if a value is required. -/
def finishLine (preset : Option String) (required : Bool) (line : Line) :
    Reply :=
  if line.text = [] then
    match preset with
    | some preset => .answer (.string preset)
    | none => if required then .open (.line none true .empty)
        else .answer (.string "")
  else .answer (.string (String.ofList line.text))

def press : Question → Key → Reply
  | truth preset, key =>
      match key with
      | .char 'y' => .answer (.bool true)
      | .char 'Y' => .answer (.bool true)
      | .char 'n' => .answer (.bool false)
      | .char 'N' => .answer (.bool false)
      | .enter => .answer (.bool preset)
      | _ => .open (truth preset)
  | line preset required text, key =>
      match key with
      | .enter => finishLine preset required text
      | _ => .open (line preset required (text.press key))
  | choice rows cursor, key =>
      let take := .answer (.string ((rows[cursor]?).getD ""))
      let below := .open (choice rows (rowBelow rows cursor))
      let above := .open (choice rows (rowAbove rows cursor))
      match key with
      | .enter => take
      | .char ' ' => take
      | .down => below
      | .tab => below
      | .char 'j' => below
      | .up => above
      | .backTab => above
      | .char 'k' => above
      | _ => .open (choice rows cursor)

/-- The answer that keys give, and the keys left over. -/
def ask (question : Question) : List Key → Except Unanswered (Json × List Key)
  | [] => .error .endOfInput
  | .interrupt :: _ => .error .interrupted
  | key :: keys =>
      match question.press key with
      | .answer value => .ok (value, keys)
      | .open question => question.ask keys

section Step

variable {question next : Question} {key : Key} {value : Json}

theorem ask_of_open (hkey : key ≠ .interrupt)
    (h : question.press key = .open next) (keys : List Key) :
    question.ask (key :: keys) = next.ask keys := by
  rw [ask]
  · rw [h]
  · exact hkey

theorem ask_of_answer (hkey : key ≠ .interrupt)
    (h : question.press key = .answer value) (keys : List Key) :
    question.ask (key :: keys) = .ok (value, keys) := by
  rw [ask]
  · rw [h]
  · exact hkey

end Step

example : (Question.truth true).ask [.char 'x', .enter, .up] =
    .ok (.bool true, [.up]) := rfl
example : (Question.choice ["", "s", "m"] 0).ask [.up, .enter] =
    .ok (.string "m", []) := rfl

end Question

end Stencil
