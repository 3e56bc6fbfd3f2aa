/-
JSON text reads back.  A text that is read holds numbers of the two kinds and a
bounded nesting, and every such value is read back from its text in any
layout, whatever follows that cannot continue a numeral.
-/
import Stencil.Proofs.Json.Layout
import Stencil.Proofs.Json.NumberText
import Stencil.Proofs.Json.StringText

namespace Stencil.Json

open Text

/-- The values that are read: integers have 64 bits, other numbers are finite,
and containers are nested at most `depth` deep. -/
inductive Readable : Nat → Json → Prop where
  | null (depth : Nat) : Readable depth null
  | bool (depth : Nat) (b : Bool) : Readable depth (bool b)
  | integer (depth : Nat) {n : Int} (hn : Numeral.inWord64 n = true) :
      Readable depth (integer n)
  | number (depth : Nat) {x : Double} (hcanonical : x.Canonical)
      (hfinite : x.isFinite = true) :
      Readable depth (number x)
  | string (depth : Nat) (s : String) : Readable depth (string s)
  | array {depth : Nat} {items : List Json}
      (h : ∀ item ∈ items, Readable depth item) :
      Readable (depth + 1) (array items)
  | object {depth : Nat} {fields : List (String × Json)}
      (h : ∀ field ∈ fields, Readable depth field.2) :
        Readable (depth + 1) (object fields)

/-- The first character of a value tells it from white space and brackets. -/
def startsValue (c : Char) : Bool :=
  !isSpace c && c != ']' && c != '}'

/-- The first characters of numerals. -/
def startsNumber (c : Char) : Bool :=
  c.isDigit || c == '-'

theorem startsValue_of_startsNumber {c : Char} (hc : startsNumber c = true) :
    startsValue c = true := by
  unfold startsNumber at hc
  rw [Bool.or_eq_true, beq_iff_eq] at hc
  rcases hc with hc | rfl
  · have hne : ∀ d ∈ [' ', '\n', '\t', '\r', ']', '}'], c ≠ d := by
      rintro d hd rfl
      have hnot : ∀ d ∈ [' ', '\n', '\t', '\r', ']', '}'], d.isDigit = false :=
        forall_mem_of_all (by decide)
      rw [hnot c hd] at hc
      contradiction
    simp only [List.mem_cons, List.not_mem_nil, or_false, forall_eq_or_imp,
      forall_eq] at hne
    simp [startsValue, isSpace, hne]
  · rfl

theorem starts_digits (negative : Bool) {ds : List Char} (hne : ds ≠ [])
    (hdigits : ∀ c ∈ ds, c.isDigit = true) (more : List Char) :
    ∃ c cs, (if negative then ['-'] else []) ++ (ds ++ more) = c :: cs ∧
      startsNumber c = true := by
  cases negative with
  | true => exact ⟨'-', ds ++ more, rfl, rfl⟩
  | false =>
      obtain ⟨c, cs, rfl⟩ := List.exists_cons_of_ne_nil hne
      refine ⟨c, cs ++ more, rfl, ?_⟩
      rw [startsNumber, hdigits c List.mem_cons_self, Bool.true_or]

theorem starts_integer (n : Int) :
    ∃ c cs, (toString n).toList = c :: cs ∧ startsNumber c = true := by
  have hstarts :=
    starts_digits (n < 0) (Nat.toDigits_ne_nil (n := n.natAbs) (b := 10))
      Numeral.isDigit_of_mem_toDigits []
  rw [Numeral.toList_toString_int]
  simpa using hstarts

theorem starts_number {x : Double} (hcanonical : x.Canonical)
    (hfinite : x.isFinite = true) :
    ∃ c cs, numberText x = c :: cs ∧ startsNumber c = true := by
  cases x with
  | nan => simp [Double.isFinite] at hfinite
  | infinite negative => simp [Double.isFinite] at hfinite
  | finite negative m e =>
      obtain ⟨p, hchars, hvalid, -⟩ := magnitudeText_denotes hcanonical
      obtain ⟨hne, hdigits, -⟩ := hvalid.whole
      rw [numberText, if_pos hfinite, Double.text, String.toList_ofList, hchars,
        NumberParts.chars]
      exact starts_digits negative hne hdigits _

theorem starts_laidOut (L : Layout) (level : Nat) {depth : Nat} {j : Json}
    (h : Readable depth j) :
    ∃ c cs, laidOut L level j = c :: cs ∧ startsValue c = true := by
  cases h with
  | null => exact ⟨'n', _, rfl, rfl⟩
  | bool _ b =>
      cases b with
      | true => exact ⟨'t', _, rfl, rfl⟩
      | false => exact ⟨'f', _, rfl, rfl⟩
  | integer _ hn =>
      obtain ⟨c, cs, htext, hc⟩ := starts_integer _
      exact ⟨c, cs, htext, startsValue_of_startsNumber hc⟩
  | number _ hcanonical hfinite =>
      obtain ⟨c, cs, htext, hc⟩ := starts_number hcanonical hfinite
      exact ⟨c, cs, htext, startsValue_of_startsNumber hc⟩
  | string _ s => exact ⟨'"', _, rfl, rfl⟩
  | @array _ items _ =>
      cases items with
      | nil => exact ⟨'[', _, rfl, rfl⟩
      | cons item items => exact ⟨'[', _, rfl, rfl⟩
  | @object _ fields _ =>
      cases fields with
      | nil => exact ⟨'\x7b', _, rfl, rfl⟩
      | cons field fields => exact ⟨'\x7b', _, rfl, rfl⟩

theorem skipSpace_of_startsValue {c : Char} (hc : startsValue c = true)
    (cs : List Char) :
    skipSpace (c :: cs) = c :: cs := by
  unfold startsValue at hc
  simp only [Bool.and_eq_true, Bool.not_eq_true'] at hc
  exact dropWhile_eq_self_of_stops (stops_cons.2 hc.1.1)

/-- White space in front of a text does not count. -/
theorem skipSpace_append {gap : List Char} (hgap : ∀ c ∈ gap, isSpace c = true)
    (cs : List Char) :
    skipSpace (gap ++ cs) = skipSpace cs := by
  rw [skipSpace, List.dropWhile_append_of_pos hgap]
  rfl

theorem readValue?_append {gap : List Char} (hgap : ∀ c ∈ gap, isSpace c = true)
    (depth : Nat) (cs : List Char) :
    readValue? depth (gap ++ cs) = readValue? depth cs := by
  rw [readValue?.eq_def, readValue?.eq_def depth cs]
  simp only [skipSpace_append hgap]

/-- White space and what ends a value cannot continue a numeral. -/
theorem stops_gap {gap : List Char} (hgap : ∀ c ∈ gap, isSpace c = true)
    {c : Char} (hc : continuesNumber c = false) (cs : List Char) :
    Stops continuesNumber (gap ++ c :: cs) := by
  cases gap with
  | nil => exact stops_cons.2 hc
  | cons d gap =>
      refine stops_cons.2 ?_
      have hspace := hgap d List.mem_cons_self
      unfold isSpace at hspace
      simp only [Bool.or_eq_true, beq_iff_eq] at hspace
      rcases hspace with ((rfl | rfl) | rfl) | rfl <;> rfl

theorem readValue?_number {c : Char} (hc : startsNumber c = true) (depth : Nat)
    (cs : List Char) :
    readValue? depth (c :: cs) = readNumber? (c :: cs) := by
  rw [readValue?.eq_def]
  simp only [skipSpace_of_startsValue (startsValue_of_startsNumber hc)]
  have hne : ∀ d, startsNumber d = false → c ≠ d := fun d hd =>
    ne_of_class hc hd
  split
  next heq => cases heq
  next heq => exact absurd (List.cons.inj heq).1 (hne _ (by decide))
  next heq => exact absurd (List.cons.inj heq).1 (hne _ (by decide))
  next heq => exact absurd (List.cons.inj heq).1 (hne _ (by decide))
  next heq => exact absurd (List.cons.inj heq).1 (hne _ (by decide))
  next heq => exact absurd (List.cons.inj heq).1 (hne _ (by decide))
  next heq => exact absurd (List.cons.inj heq).1 (hne _ (by decide))
  next heq =>
      obtain ⟨rfl, rfl⟩ := List.cons.inj heq
      rfl

theorem readValue?_string (depth : Nat) (s : String) (rest : List Char) :
    readValue? depth (quote s ++ rest) = some (string s, rest) := by
  have hskip := skipSpace_of_startsValue (c := '"') rfl
  rw [quote, List.append_assoc, List.cons_append, readValue?.eq_def]
  simp only [hskip, List.singleton_append, readString?_escaped, Option.map_some]

/-- Digits without a fraction and an exponent are an integer literal. -/
theorem readValue?_whole (negative : Bool) {ds rest : List Char}
    (hds : WholeDigits ds) (hrest : Stops continuesNumber rest) (depth : Nat) :
    readValue? depth ((if negative then ['-'] else []) ++ (ds ++ rest)) =
      (ofIntegerLiteral? negative (Nat.ofDigitChars 10 ds 0)).map
        (·, rest) := by
  have hvalid : NumberParts.Valid ⟨ds, none, none⟩ := ⟨hds, nofun⟩
  have hread := readNumber?_parts negative hvalid hrest
  simp only [NumberParts.chars, NumberParts.fractionChars,
    NumberParts.powerChars, NumberParts.toJson?, List.append_nil] at hread
  obtain ⟨c, cs, hchars, hc⟩ := starts_digits negative hds.1 hds.2.1 rest
  rw [hchars, readValue?_number hc, ← hchars, hread,
    Numeral.digitsValue_eq_ofDigitChars]

/-- A text that is an integer literal. -/
theorem ofTextAsWritten?_whole (negative : Bool) {ds : List Char}
    (hds : WholeDigits ds) :
    ofTextAsWritten? (String.ofList ((if negative then ['-'] else []) ++ ds)) =
      ofIntegerLiteral? negative (Nat.ofDigitChars 10 ds 0) := by
  have hread := readValue?_whole negative hds (stops_nil _) maxDepth
  rw [List.append_nil] at hread
  rw [ofTextAsWritten?, String.toList_ofList, hread]
  cases ofIntegerLiteral? negative (Nat.ofDigitChars 10 ds 0) with
  | none => rfl
  | some value => rfl

variable {L : Layout} {item : List Char → Option (Json × List Char)}

/-- What reads the items of a container back from their texts, after any white
space. -/
def ReadsBack (L : Layout) (level : Nat)
    (item : List Char → Option (Json × List Char)) (j : Json) : Prop :=
  ∀ gap rest, (∀ c ∈ gap, isSpace c = true) → Stops continuesNumber rest →
    item (gap ++ (laidOut L level j ++ rest)) = some (j, rest)

theorem readItems?_laidOut {level : Nat} {gap last : List Char} {j : Json}
    {items : List Json} {fuel : Nat}
    (hitems : ∀ x ∈ j :: items, ReadsBack L level item x)
    (hgap : ∀ c ∈ gap, isSpace c = true) (hlast : ∀ c ∈ last, isSpace c = true)
    (hfuel : items.length < fuel) (rest : List Char) :
    readItems? item fuel
        (gap ++ (laidOut L level j ++
          (laidOutItems L level items ++ (last ++ ']' :: rest)))) =
      some (j :: items, rest) := by
  induction items generalizing j gap fuel with
  | nil =>
      obtain ⟨fuel, rfl⟩ : ∃ n, fuel = n + 1 := ⟨fuel - 1, by omega⟩
      have hstops : Stops continuesNumber (last ++ ']' :: rest) :=
        stops_gap hlast rfl rest
      have hskip : skipSpace (last ++ ']' :: rest) = ']' :: rest :=
        skipSpace_append hlast _
      rw [laidOutItems, List.nil_append, readItems?,
        hitems j List.mem_cons_self _ _ hgap hstops]
      simp only [Option.bind_eq_bind, Option.bind_some, hskip]
  | cons k items ih =>
      obtain ⟨fuel, rfl⟩ : ∃ n, fuel = n + 1 := ⟨fuel - 1, by omega⟩
      have hstops : Stops continuesNumber
          (laidOutItems L level (k :: items) ++ (last ++ ']' :: rest)) :=
            stops_cons.2 rfl
      have hskip := skipSpace_of_startsValue (c := ',') rfl
      have hrest := ih (fun x hx => hitems x (List.mem_cons_of_mem j hx))
        (L.gap_space level)
        (by simpa using hfuel)
      rw [readItems?, hitems j List.mem_cons_self _ _ hgap hstops]
      simp only [Option.bind_eq_bind, Option.bind_some, laidOutItems,
        List.append_assoc, List.cons_append, hskip, hrest]

theorem readFields?_laidOut {level : Nat} {gap last : List Char} {name : String}
    {j : Json} {fields : List (String × Json)} {fuel : Nat}
    (hfields : ∀ field ∈ (name, j) :: fields, ReadsBack L level item field.2)
    (hgap : ∀ c ∈ gap, isSpace c = true) (hlast : ∀ c ∈ last, isSpace c = true)
    (hfuel : fields.length < fuel) (rest : List Char) :
    readFields? item fuel
        (gap ++ (quote name ++ ':' :: (L.colon ++ (laidOut L level j ++
          (laidOutFields L level fields ++ (last ++ '\x7d' :: rest)))))) =
      some ((name, j) :: fields, rest) := by
  have hquote := skipSpace_of_startsValue (c := '"') rfl
  have hcolon := skipSpace_of_startsValue (c := ':') rfl
  induction fields generalizing name j gap fuel with
  | nil =>
      obtain ⟨fuel, rfl⟩ : ∃ n, fuel = n + 1 := ⟨fuel - 1, by omega⟩
      have hj : ReadsBack L level item j := hfields _ List.mem_cons_self
      have hstops : Stops continuesNumber (last ++ '\x7d' :: rest) :=
        stops_gap hlast rfl rest
      have hskip : skipSpace (last ++ '\x7d' :: rest) = '\x7d' :: rest :=
        skipSpace_append hlast _
      rw [laidOutFields, List.nil_append, readFields?, skipSpace_append hgap]
      simp only [quote, List.append_assoc, List.cons_append, List.nil_append,
        hquote, hcolon, readString?_escaped, Option.bind_eq_bind,
        Option.bind_some, hj _ _ L.colon_space hstops, hskip]
  | cons next fields ih =>
      obtain ⟨fuel, rfl⟩ : ∃ n, fuel = n + 1 := ⟨fuel - 1, by omega⟩
      have hj : ReadsBack L level item j := hfields _ List.mem_cons_self
      have hstops : Stops continuesNumber
          (laidOutFields L level (next :: fields) ++
            (last ++ '\x7d' :: rest)) := stops_cons.2 rfl
      have hskip := skipSpace_of_startsValue (c := ',') rfl
      have hrest := ih (fun x hx => hfields x (List.mem_cons_of_mem _ hx))
        (L.gap_space level)
        (by simpa using hfuel)
      rw [readFields?, skipSpace_append hgap]
      rw [quote, List.append_assoc, List.cons_append, List.singleton_append]
      simp only [hquote, hcolon, readString?_escaped, Option.bind_eq_bind,
        Option.bind_some, hj _ _ L.colon_space hstops]
      simp only [laidOutFields, List.append_assoc, List.cons_append, hskip,
        hrest, Option.bind_some]

theorem length_le_laidOutItems (level : Nat) (items : List Json) :
    items.length ≤ (laidOutItems L level items).length := by
  induction items with
  | nil => exact Nat.zero_le _
  | cons j items ih =>
      simp only [laidOutItems, List.length_append, List.length_cons]
      omega

theorem length_le_laidOutFields (level : Nat) (fields : List (String × Json)) :
    fields.length ≤ (laidOutFields L level fields).length := by
  induction fields with
  | nil => exact Nat.zero_le _
  | cons field fields ih =>
      simp only [laidOutFields, List.length_append, List.length_cons]
      omega

theorem readValue?_array {depth level : Nat} {items : List Json}
    (hitems : ∀ j ∈ items, Readable depth j ∧
      ReadsBack L (level + 1) (readValue? depth) j) (rest : List Char) :
    readValue? (depth + 1) (laidOut L level (array items) ++ rest) =
      some (array items, rest) := by
  have hopen := skipSpace_of_startsValue (c := '[') rfl
  rw [readValue?.eq_def]
  cases items with
  | nil => rfl
  | cons j items =>
      have hfuel := length_le_laidOutItems (L := L) (level + 1) items
      have hread := fun fuel (hfuel : items.length < fuel) =>
        readItems?_laidOut (fun x hx => (hitems x hx).2)
          (L.gap_space (level + 1))
          (L.gap_space level) hfuel rest
      obtain ⟨c, cs, htext, hc⟩ :=
        starts_laidOut L (level + 1) (hitems j List.mem_cons_self).1
      have hne : c ≠ ']' := by
        rintro rfl
        contradiction
      simp only [laidOut, List.cons_append, List.append_assoc, List.nil_append,
        hopen, skipSpace_append (L.gap_space (level + 1))]
      rw [hread _ (by simp only [List.length_append]; omega)]
      rw [htext, List.cons_append, skipSpace_of_startsValue hc]
      split
      next heq => exact absurd (List.cons.inj heq).1 hne
      next => rfl

theorem readValue?_object {depth level : Nat} {fields : List (String × Json)}
    (hfields : ∀ field ∈ fields,
      ReadsBack L (level + 1) (readValue? depth) field.2) (rest : List Char) :
    readValue? (depth + 1) (laidOut L level (object fields) ++ rest) =
      some (object fields, rest) := by
  have hopen := skipSpace_of_startsValue (c := '\x7b') rfl
  rw [readValue?.eq_def]
  cases fields with
  | nil => rfl
  | cons field fields =>
      obtain ⟨name, j⟩ := field
      have hfuel := length_le_laidOutFields (L := L) (level + 1) fields
      have hread := fun fuel (hfuel : fields.length < fuel) =>
        readFields?_laidOut hfields (L.gap_space (level + 1))
          (L.gap_space level) hfuel rest
      have hquote := skipSpace_of_startsValue (c := '"') rfl
      simp only [laidOut, List.cons_append, List.append_assoc, List.nil_append,
        hopen, skipSpace_append (L.gap_space (level + 1))]
      rw [hread _ (by simp only [List.length_append, List.length_cons]; omega)]
      rw [quote, List.append_assoc, List.cons_append, hquote]
      rfl

/-- A value that can be read is read back from its text in any layout, whatever
follows. -/
theorem readValue?_laidOut {depth : Nat} {j : Json} (h : Readable depth j)
    (level : Nat) :
    ReadsBack L level (readValue? depth) j := by
  intro gap rest hgap hrest
  rw [readValue?_append hgap]
  induction h generalizing level gap rest with
  | null =>
      rw [readValue?.eq_def]
      rfl
  | bool _ b =>
      rw [readValue?.eq_def]
      cases b with
      | true => rfl
      | false => rfl
  | integer _ hn =>
      obtain ⟨c, cs, htext, hc⟩ := starts_integer _
      have hread := readNumber?_integer hn hrest
      rw [laidOut, scalarText, htext, List.cons_append, readValue?_number hc,
        ← List.cons_append, ← htext, hread]
      all_goals nofun
  | number _ hcanonical hfinite =>
      obtain ⟨c, cs, htext, hc⟩ := starts_number hcanonical hfinite
      have hread := readNumber?_double hcanonical hfinite hrest
      rw [laidOut, scalarText, htext, List.cons_append, readValue?_number hc,
        ← List.cons_append, ← htext, hread]
      all_goals nofun
  | string _ s => exact readValue?_string _ s rest
  | array h ih =>
      refine readValue?_array
        (fun j hj => ⟨h j hj, fun gap rest hgap hrest => ?_⟩) rest
      rw [readValue?_append hgap]
      exact ih j hj (level + 1) gap rest hgap hrest
  | object _ ih =>
      refine readValue?_object (fun field hfield gap rest hgap hrest => ?_) rest
      rw [readValue?_append hgap]
      exact ih field hfield (level + 1) gap rest hgap hrest

/-- Read a whole text in which containers are nested at most `depth` deep, into
canonical form. -/
def ofTextWithin? (depth : Nat) (text : String) : Option Json :=
  match readValue? depth text.toList with
  | some (value, rest) =>
      if skipSpace rest = [] then some value.canonical else none
  | none => none

theorem ofText?_eq (text : String) :
    ofText? text = ofTextWithin? maxDepth text := by
  unfold ofText? ofTextAsWritten? ofTextWithin?
  cases readValue? maxDepth text.toList with
  | none => rfl
  | some result => exact apply_ite (Option.map canonical) _ _ _

/-- The whole text of a readable value is read. -/
theorem readValue?_laidOut_whole (L : Layout) {depth : Nat} {j : Json}
    (h : Readable depth j) :
    readValue? depth (laidOut L 0 j) = some (j, []) := by
  have hread := readValue?_laidOut (L := L) h 0 [] [] (List.forall_mem_nil _)
    (stops_nil _)
  rwa [List.nil_append, List.append_nil] at hread

/-- The text of a readable value holds that value as it was written. -/
theorem ofTextAsWritten?_laidOut (L : Layout) {j : Json}
    (h : Readable maxDepth j) :
    ofTextAsWritten? (String.ofList (laidOut L 0 j)) = some j := by
  simp [ofTextAsWritten?, readValue?_laidOut_whole L h, skipSpace]

theorem ofTextAsWritten?_compact {j : Json} (h : Readable maxDepth j) :
    ofTextAsWritten? j.compact = some j := by
  rw [compact, compactChars_eq 0]
  exact ofTextAsWritten?_laidOut .compact h

theorem ofTextAsWritten?_indented {j : Json} (h : Readable maxDepth j) :
    ofTextAsWritten? j.indented = some j := by
  rw [indented, indentedChars_eq]
  exact ofTextAsWritten?_laidOut .indented h

/-- The text of a readable value holds that value, up to the order of its
fields. -/
theorem ofTextWithin?_laidOut (L : Layout) {depth : Nat} {j : Json}
    (h : Readable depth j) :
    ofTextWithin? depth (String.ofList (laidOut L 0 j)) = some j.canonical := by
  simp [ofTextWithin?, readValue?_laidOut_whole L h, skipSpace]

theorem ofTextWithin?_compact {depth : Nat} {j : Json} (h : Readable depth j) :
    ofTextWithin? depth j.compact = some j.canonical := by
  rw [compact, compactChars_eq 0]
  exact ofTextWithin?_laidOut .compact h

theorem ofTextWithin?_indented {depth : Nat} {j : Json} (h : Readable depth j) :
    ofTextWithin? depth j.indented = some j.canonical := by
  rw [indented, indentedChars_eq]
  exact ofTextWithin?_laidOut .indented h

end Stencil.Json
