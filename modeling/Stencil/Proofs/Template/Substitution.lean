/-
Rendering a template of text, comments and plain references.  Every level of the
expression reader passes on an operand that nothing follows, so a tag with one
name is read as a reference to it, and a reference is replaced by the printed
value of its name or fails with its line.
-/
import Stencil.Proofs.Entries
import Stencil.Proofs.Template.Marks

namespace Stencil.Template

open Reader

namespace Expression

/-- A reader takes all words as one expression. -/
def Reads (reader : Reader Expression) (words : List Lexeme) (e : Expression) :
    Prop :=
  reader words = .ok (e, [])

section Levels

variable {operand full simple primary : Reader Expression} {words : List Lexeme}
  {e : Expression}

theorem Reads.chain (operator? : Token → Option BinaryOperator)
    (h : Reads operand words e) :
    Reads (chain operator? operand) words e := by
  rw [Reads] at h ⊢
  simp [Expression.chain, Expression.chain.go, h, bind, Except.bind]

theorem Reads.connected (word : String)
    (connect : Expression → Expression → Nat → Expression)
    (h : Reads operand words e) :
    Reads (connected word connect operand) words e := by
  rw [Reads] at h ⊢
  simp [Expression.connected, Expression.connected.go, skipName?, h, bind,
    Except.bind]

theorem Reads.comparisons (h : Reads operand words e) :
    Reads (comparisons operand) words e := by
  rw [Reads] at h ⊢
  simp [Expression.comparisons, links, readComparison, h, bind, Except.bind]

theorem Reads.negations (hword : skipName? "not" words = none)
    (h : Reads operand words e) (fuel : Nat) :
    Reads (negations operand (fuel + 1)) words e := by
  rw [Reads] at h ⊢
  simp [Expression.negations, hword, h]

theorem Reads.conditionals (h : Reads operand words e) :
    Reads (conditionals operand) words e := by
  rw [Reads] at h ⊢
  simp [Expression.conditionals, conditionsAfter, skipName?, h, bind,
    Except.bind]

theorem Reads.signs (hword : skipSymbol? "-" words = none)
    (h : Reads operand words e) (fuel : Nat) :
    Reads (signs operand (fuel + 1)) words e := by
  rw [Reads] at h ⊢
  simp [Expression.signs, hword, h]

theorem Reads.suffixedWith (hword : skipSymbol? "-" words = none)
    (h : Reads primary words e) :
    Reads (suffixedWith primary full simple) words e := by
  have hsigns := h.signs hword words.length
  rw [Reads] at hsigns ⊢
  simp [Expression.suffixedWith, hsigns, suffixes, skipSymbol?, bind,
    Except.bind]

theorem Reads.operandWith (hword : skipSymbol? "-" words = none)
    (h : Reads primary words e) :
    Reads (operandWith primary full simple) words e := by
  have hsuffixed :
      Reads (Expression.suffixedWith primary full simple) words e :=
    h.suffixedWith hword
  rw [Reads] at hsuffixed ⊢
  simp [Expression.operandWith, filters, skipSymbol?, skipName?, hsuffixed,
    bind, Except.bind]

theorem Reads.operatorsWith (hword : skipName? "not" words = none)
    (h : Reads operand words e) :
    Reads (operatorsWith operand) words e := by
  have hchains := (((h.chain powerOperator?).chain productOperator?).chain
    concatenationOperator?).chain sumOperator?
  have hnegations :
      Reads (fun words => Expression.negations _ (words.length + 1) words)
        words e :=
    hchains.comparisons.negations hword words.length
  exact (hnegations.connected "and" and).connected "or" or

end Levels

theorem literalName?_eq_none {name : String} (h : PlainName name) :
    literalName? name = none := by
  have hreserved := h.not_reserved
  unfold literalName?
  split <;> first | rfl | exact absurd (by decide) hreserved

/-- A name that stands for a variable is a reference. -/
theorem read_name {name : String} (h : PlainName name) (line depth : Nat) :
    read (depth + 2) [⟨.name name, line⟩] = .ok (reference name line, []) := by
  have hnot : skipName? "not" [⟨.name name, line⟩] = none := by
    refine if_neg ?_
    rintro rfl
    exact h.not_reserved (by decide)
  have hprimary : Reads (primaryWith (read depth)) [⟨.name name, line⟩]
      (reference name line) := by
    simp [Reads, primaryWith, literalName?_eq_none h]
  exact ((hprimary.operandWith rfl).operatorsWith hnot).conditionals

end Expression

namespace Part

def node : Part → Node
  | text cs => .text cs
  | reference name line => .output (.reference name line) line

/-- The name of a reference stands for a variable. -/
def Admissible : Part → Prop
  | text _ => True
  | reference name _ => PlainName name

/-- The text of a part: its own, or the printed value of its name. -/
def print (inputs : Inputs) : Part → Except Failure (List Char)
  | text cs => .ok cs
  | reference name line =>
      match inputs.get? name with
      | some typed => .ok (Value.ofTyped typed).printed
      | none => .error (.fault .undefinedValue line)

def printAll (inputs : Inputs) : List Part → Except Failure (List Char)
  | [] => .ok []
  | part :: rest => do
      let first ← part.print inputs
      let more ← printAll inputs rest
      .ok (first ++ more)

end Part

namespace Node

variable {parts : List Part}

theorem bodyWith_parts (statement : StatementReader) (depth : Nat)
    (h : ∀ part ∈ parts, part.Admissible) {fuel : Nat}
    (hfuel : parts.length < fuel) :
    bodyWith (Expression.read (depth + 2)) statement [] fuel
      (parts.map Part.segment) =
      .ok (parts.map Part.node, none, []) := by
  induction parts generalizing fuel with
  | nil =>
      obtain ⟨fuel, rfl⟩ : ∃ n, fuel = n + 1 := ⟨fuel - 1, by omega⟩
      rfl
  | cons part rest ih =>
      obtain ⟨fuel, rfl⟩ : ∃ n, fuel = n + 1 := ⟨fuel - 1, by omega⟩
      have hrest := ih (fun p hp => h p (List.mem_cons_of_mem _ hp))
        (Nat.lt_of_succ_lt_succ hfuel)
      cases part with
      | text cs =>
          simp [Part.segment, Part.node, bodyWith, hrest, bind, Except.bind]
      | reference name line =>
          have hread := Expression.read_name (h _ List.mem_cons_self) line depth
          simp [Part.segment, Part.node, bodyWith, wholeTag, hread, expectEnd,
            Expression.line?, hrest, bind, Except.bind]

theorem blockNamesOf_parts (parts : List Part) :
    blockNamesOf (parts.map Part.node) = [] := by
  induction parts with
  | nil => rfl
  | cons part rest ih =>
      cases part <;> simpa [blockNamesOf, Part.node, Node.blockNames] using ih

theorem keepBlocksOut_parts (parts : List Part) :
    keepBlocksOut (parts.map Part.node) = true := by
  induction parts with
  | nil => rfl
  | cons part rest ih =>
      cases part <;> simpa [keepBlocksOut, Part.node,
        Node.keepsBlocksOut] using ih

theorem ofSegments_parts (h : ∀ part ∈ parts, part.Admissible) :
    ofSegments (parts.map Part.segment) = .ok (parts.map Part.node) := by
  have hbody := bodyWith_parts (readStatement Expression.maxDepth) 148 h
    (Nat.lt_succ_self parts.length)
  simp only [ofSegments, List.length_map]
  rw [show Expression.maxDepth = 148 + 2 from rfl] at hbody ⊢
  simp [hbody, blockNamesOf_parts, keepBlocksOut_parts, bind, Except.bind]

end Node

namespace Machine

/-- A machine in whose only frame some names are defined. -/
def start (names : Entries Value) : Machine :=
  { frames := [{ locals := names }] }

/-- The names that inputs define. -/
def namesOf (inputs : Inputs) : Entries Value :=
  inputs.map fun input => (input.1, Value.ofTyped input.2)

theorem lookup?_start (name : String) (inputs : Inputs) :
    (start (namesOf inputs)).lookup? name =
      ((inputs.get? name).map Value.ofTyped).or (builtin? name) := by
  rw [lookup?, start, List.findSome?_singleton, frameValue?, namesOf,
    Entries.get?_map]
  simp [closureNames, Entries.get?]

end Machine

theorem PlainName.builtin?_eq_none {name : String} (h : PlainName name) :
    Machine.builtin? name = none := by
  refine if_neg fun hbuiltin => ?_
  have hreserved : ∀ word ∈ Machine.builtinNames, word ∈ reservedNames := by
    decide
  exact h.not_reserved (hreserved name (List.contains_iff_mem.1 hbuiltin))

/-- Inputs are never undefined. -/
theorem print_ofTyped (line : Nat) (typed : TypedValue) :
    Eval.print line (Value.ofTyped typed) =
      pure (Value.ofTyped typed).printed := by
  cases typed <;> rfl

namespace Evaluation

open Machine

variable {parts : List Part}

theorem run_output_reference (call : Caller) (name : String) (line : Nat)
    (m : Machine) :
    (node call (.output (.reference name line) line)).run m =
      (Eval.print line (Value.ofOption (m.lookup? name))).run m := by
  rw [node, expression]
  rfl

theorem run_part (inputs : Inputs) (call : Caller) {part : Part}
    (h : part.Admissible) :
    (node call part.node).run (start (namesOf inputs)) =
      (part.print inputs).map fun text => (text, start (namesOf inputs)) := by
  cases part with
  | text cs => rw [Part.node, node]; rfl
  | reference name line =>
      rw [Part.node, run_output_reference, lookup?_start, Part.print,
        PlainName.builtin?_eq_none h, Option.or_none]
      cases hget : inputs.get? name with
      | some typed =>
          rw [Option.map_some, Value.ofOption, print_ofTyped]
          rfl
      | none => rfl

theorem run_prepend (first : List Char) (action : Eval (List Char))
    (m : Machine) :
    (do
      let more ← action
      pure (first ++ more) : Eval (List Char)).run m =
        (action.run m).map fun more => (first ++ more.1, more.2) :=
  rfl

/-- Parts are evaluated one after the other, in the same machine. -/
theorem run_parts (inputs : Inputs) (call : Caller)
    (h : ∀ part ∈ parts, part.Admissible) :
    (nodes call (parts.map Part.node)).run (start (namesOf inputs)) =
      (Part.printAll inputs parts).map fun text =>
        (text, start (namesOf inputs)) := by
  induction parts with
  | nil => rw [List.map_nil, nodes]; rfl
  | cons part rest ih =>
      have hpart := run_part inputs call (h part List.mem_cons_self)
      have hrest := ih fun p hp => h p (List.mem_cons_of_mem part hp)
      rw [List.map_cons, nodes, StateT.run_bind, hpart, Part.printAll]
      cases hprint : part.print inputs with
      | error failure => rfl
      | ok first =>
          refine (run_prepend first _ _).trans ?_
          rw [hrest]
          cases hmore : Part.printAll inputs rest with
          | error failure => rfl
          | ok more => rfl

end Evaluation

theorem Node.render_parts {parts : List Part}
    (h : ∀ part ∈ parts, part.Admissible) (inputs : Inputs) :
    Node.render (parts.map Part.node) (Machine.namesOf inputs) =
      Part.printAll inputs parts := by
  have hrun :=
    Evaluation.run_parts inputs (Evaluation.caller Machine.maxDepth) h
  rw [Machine.start] at hrun
  rw [render, hrun]
  cases Part.printAll inputs parts <;> rfl

namespace Part

theorem printAll_append (inputs : Inputs) (first rest : List Part) :
    printAll inputs (first ++ rest) =
      (printAll inputs first).bind fun text =>
        (printAll inputs rest).map (text ++ ·) := by
  induction first with
  | nil =>
      rw [List.nil_append, printAll]
      cases printAll inputs rest <;> rfl
  | cons part first ih =>
      rw [List.cons_append, printAll, printAll, ih]
      cases part.print inputs with
      | error failure => rfl
      | ok text =>
          cases printAll inputs first with
          | error failure => rfl
          | ok more =>
              cases printAll inputs rest with
              | error failure => rfl
              | ok others => simp [bind, Except.bind, Except.map]

theorem printAll_ofText (inputs : Inputs) (cs : List Char) :
    printAll inputs (ofText cs) = .ok cs := by
  cases cs with
  | nil => rfl
  | cons c cs => simp [ofText, printAll, print, bind, Except.bind]

end Part

/-- The printed value of an input. -/
def printedInput (inputs : Inputs) (name : String) : List Char :=
  ((inputs.get? name).map fun typed => (Value.ofTyped typed).printed).getD []

theorem printedInput_of_get? {inputs : Inputs} {name : String}
    {typed : TypedValue} (h : inputs.get? name = some typed) :
    printedInput inputs name = (Value.ofTyped typed).printed := by
  rw [printedInput, h, Option.map_some, Option.getD_some]

namespace Mark

variable {inputs : Inputs} {mark : Mark}

/-- A reference is to one of the inputs. -/
def Defined (inputs : Inputs) : Mark → Prop
  | comment _ => True
  | reference name => inputs.contains name = true

/-- What stands in the place of a tag: nothing, or the printed input. -/
def shown (inputs : Inputs) : Mark → List Char
  | comment _ => []
  | reference name => printedInput inputs name

def display (inputs : Inputs) : Display Mark where
  trimsBefore := trimsBefore
  trimsAfter := trimsAfter
  shown := shown inputs

theorem printAll_parts (h : mark.Defined inputs) (line : Nat) :
    Part.printAll inputs (mark.parts line) = .ok (mark.shown inputs) := by
  cases mark with
  | comment body => rfl
  | reference name =>
      obtain ⟨typed, htyped⟩ := Option.isSome_iff_exists.1 h
      simp [parts, Part.printAll, Part.print, shown,
        printedInput_of_get? htyped, htyped, bind, Except.bind]

theorem admissible_parts (h : mark.Admissible) (line : Nat) :
    ∀ part ∈ mark.parts line, part.Admissible := by
  intro part hpart
  cases mark with
  | comment body => cases hpart
  | reference name =>
      obtain rfl := List.mem_singleton.1 hpart
      exact h

theorem printAll_parts_undefined {name : String} (h : inputs.get? name = none)
    (line : Nat) :
    Part.printAll inputs ((reference name).parts line) =
      .error (.fault .undefinedValue line) := by
  simp [parts, Part.printAll, Part.print, h, bind, Except.bind]

end Mark

namespace Layout

variable {inputs : Inputs} {pieces : List (List Char × Mark)}

theorem printAll_partsFrom (last : List Char)
    (h : ∀ piece ∈ pieces, piece.2.Defined inputs) (trim : Bool) (line : Nat) :
    Part.printAll inputs (partsFrom last trim line pieces) =
      .ok (displayFrom (Mark.display inputs) last trim pieces) := by
  induction pieces generalizing trim line with
  | nil => exact Part.printAll_ofText inputs _
  | cons piece rest ih =>
      obtain ⟨text, mark⟩ := piece
      have hrest :=
        ih (fun p hp => h p (List.mem_cons_of_mem _ hp)) mark.trimsAfter
          (line + (text ++ mark.chars).count '\n')
      have hmark := Mark.printAll_parts (h _ List.mem_cons_self)
        (line + text.count '\n')
      rw [partsFrom, Part.printAll_append, Part.printAll_ofText,
        Part.printAll_append, hmark, hrest]
      simp [Except.map, Except.bind, displayFrom, Mark.display]

/-- The first name that is not among the inputs is reported with its line. -/
theorem printAll_partsFrom_undefined {name : String} {text : List Char}
    {before after : List (List Char × Mark)} (last : List Char)
    (h : ∀ piece ∈ before, piece.2.Defined inputs)
    (hname : inputs.get? name = none) (trim : Bool) (line : Nat) :
    Part.printAll inputs
      (partsFrom last trim line (before ++ (text, .reference name) :: after)) =
      .error (.fault .undefinedValue
        (line + (chars Mark.chars ⟨before, text⟩).count '\n')) := by
  induction before generalizing trim line with
  | nil =>
      have hmark := Mark.printAll_parts_undefined hname (line + text.count '\n')
      rw [List.nil_append, partsFrom, Part.printAll_append,
        Part.printAll_ofText, Part.printAll_append, hmark]
      rfl
  | cons piece rest ih =>
      obtain ⟨lead, mark⟩ := piece
      have hrest :=
        ih (fun p hp => h p (List.mem_cons_of_mem _ hp)) mark.trimsAfter
          (line + (lead ++ mark.chars).count '\n')
      have hmark := Mark.printAll_parts (h _ List.mem_cons_self)
        (line + lead.count '\n')
      have hline :
          line + (chars Mark.chars ⟨(lead, mark) :: rest, text⟩).count '\n' =
          line + (lead ++ mark.chars).count '\n' +
            (chars Mark.chars ⟨rest, text⟩).count '\n' := by
        rw [chars_cons, ← List.append_assoc, List.count_append, Nat.add_assoc]
      rw [List.cons_append, partsFrom, Part.printAll_append,
        Part.printAll_ofText, Part.printAll_append, hmark, hrest, hline]
      rfl

theorem admissible_partsFrom (last : List Char)
    (h : ∀ piece ∈ pieces, piece.2.Admissible) (trim : Bool) (line : Nat) :
    ∀ part ∈ partsFrom last trim line pieces, part.Admissible := by
  have htext : ∀ cs, ∀ part ∈ Part.ofText cs, part.Admissible := by
    intro cs part hpart
    cases cs with
    | nil => cases hpart
    | cons c cs =>
        obtain rfl := List.mem_singleton.1 hpart
        trivial
  induction pieces generalizing trim line with
  | nil => exact htext _
  | cons piece rest ih =>
      obtain ⟨text, mark⟩ := piece
      intro part hpart
      rcases List.mem_append.1 hpart with hpart | hpart
      · exact htext _ part hpart
      · rcases List.mem_append.1 hpart with hpart | hpart
        · exact Mark.admissible_parts (h _ List.mem_cons_self) _ part hpart
        · exact ih (fun p hp => h p (List.mem_cons_of_mem _ hp)) _ _ part hpart

/-- The final line break of a layout is that of its last text. -/
theorem finalBreak_chars {last kept : List Char} (h : FinalBreak last kept) :
    FinalBreak (chars Mark.chars ⟨pieces, last⟩)
      (chars Mark.chars ⟨pieces, kept⟩) := by
  refine h.append fun c hc => ?_
  rcases List.eq_nil_or_concat' pieces with rfl | ⟨init, ⟨text, mark⟩, rfl⟩
  · cases hc
  · have hlast : mark.chars.getLast? = some '}' := by
      cases mark <;> simp [Mark.chars, List.getLast?_cons]
    rw [List.flatMap_append, List.flatMap_singleton, List.getLast?_append,
      List.getLast?_append, hlast, Option.some_or, Option.some_or,
      Option.mem_some_iff] at hc
    subst hc
    decide

end Layout

/-- A layout is rendered part by part. -/
theorem render_layout {t : Layout Mark} {template : String} {kept : List Char}
    (htext : template.toList = t.chars Mark.chars) (hplain : t.Plain)
    (hmarks : ∀ piece ∈ t.pieces, piece.2.Admissible)
    (hkept : FinalBreak t.last kept) (inputs : Inputs) :
    render template inputs =
      (Part.printAll inputs (Layout.partsFrom kept false 1 t.pieces)).map
        String.ofList := by
  obtain ⟨pieces, last⟩ := t
  have hsegments : Segment.ofTemplate template =
      (Layout.partsFrom kept false 1 pieces).map Part.segment := by
    rw [Segment.ofTemplate, htext,
      (Layout.finalBreak_chars hkept).dropFinalBreak_eq]
    exact Segment.scan_chars
      (fun hmem => hplain.2 (hkept.mem hmem)) hplain.1 hmarks false 1
  have hadmissible := Layout.admissible_partsFrom kept hmarks false 1
  rw [render, hsegments, Node.ofSegments_parts hadmissible]
  change (Node.render _ (Machine.namesOf inputs)).bind _ = _
  rw [Node.render_parts hadmissible]
  rfl

/-- If all names are defined, the tags are replaced and nothing else changes but
the white space that comments take. -/
theorem render_layout_ok {t : Layout Mark} {template : String}
    {kept : List Char} (htext : template.toList = t.chars Mark.chars)
    (hplain : t.Plain) (hmarks : ∀ piece ∈ t.pieces, piece.2.Admissible)
    (hkept : FinalBreak t.last kept) {inputs : Inputs}
    (hdefined : ∀ piece ∈ t.pieces, piece.2.Defined inputs) :
    render template inputs =
      .ok (String.ofList
        (Layout.display (Mark.display inputs) ⟨t.pieces, kept⟩)) := by
  rw [render_layout htext hplain hmarks hkept,
    Layout.printAll_partsFrom kept hdefined]
  rfl

/-- Otherwise the line of the first name that is not defined is reported. -/
theorem render_layout_undefined {t : Layout Mark} {template : String}
    (htext : template.toList = t.chars Mark.chars) (hplain : t.Plain)
    (hmarks : ∀ piece ∈ t.pieces, piece.2.Admissible) {inputs : Inputs}
    {before after : List (List Char × Mark)} {text : List Char} {name : String}
    (hpieces : t.pieces = before ++ (text, .reference name) :: after)
    (hdefined : ∀ piece ∈ before, piece.2.Defined inputs)
    (hname : inputs.get? name = none) :
    render template inputs =
      .error (.fault .undefinedValue
        (1 + (Layout.chars Mark.chars ⟨before, text⟩).count '\n')) := by
  obtain ⟨kept, hkept⟩ := FinalBreak.exists_of_text t.last
  rw [render_layout htext hplain hmarks hkept, hpieces,
    Layout.printAll_partsFrom_undefined kept hdefined hname]
  rfl

end Stencil.Template
