/-
The grammar of values.  The forms of a value are tried in a fixed order, and a
value is read in the first one that fits, as far as that form goes.
-/
import Stencil.Proofs.Schema.ClauseSpelling

namespace Stencil

open Text

/-- What may stand around a value. -/
inductive Enclosure where
  | doubleQuotes
  | singleQuotes
  | brackets
deriving DecidableEq, Repr

namespace Enclosure

def first : Enclosure → Char
  | doubleQuotes => '"'
  | singleQuotes => '\''
  | brackets => '['

def last : Enclosure → Char
  | doubleQuotes => '"'
  | singleQuotes => '\''
  | brackets => ']'

/-- The value that an enclosed text stands for. -/
def value : Enclosure → List Char → ClauseValue
  | doubleQuotes, inner => .quoted (String.ofList inner)
  | singleQuotes, inner => .quoted (String.ofList inner)
  | brackets, inner => .list (String.ofList inner)

/-- A text is enclosed if the closing character stands at its end only. -/
def Encloses (e : Enclosure) (inner written : List Char) : Prop :=
  e.last ∉ inner ∧ written = e.first :: (inner ++ [e.last])

end Enclosure

/-- The forms of a value. -/
inductive ValueForm where
  | enclosed (e : Enclosure)
  | numeral
  | word
deriving DecidableEq, Repr

namespace ValueForm

/-- The forms are tried in this order. -/
def rank : ValueForm → Nat
  | enclosed .doubleQuotes => 0
  | enclosed .singleQuotes => 1
  | enclosed .brackets => 2
  | numeral => 3
  | word => 4

/-- Digits, and perhaps a point with digits. -/
def IsNumeral (written : List Char) : Prop :=
  ∃ whole places, written = whole ++ places ∧ whole ≠ [] ∧
    (∀ c ∈ whole, isDecimal c = true) ∧
    (places = [] ∨
      ∃ digits, places = '.' :: digits ∧ digits ≠ [] ∧ ∀ c ∈ digits,
        isDecimal c = true)

/-- The texts that a form admits, each with the value that it stands for. -/
def Writes (form : ValueForm) (written : List Char) (value : ClauseValue) :
    Prop :=
  match form with
  | enclosed e => ∃ inner, e.Encloses inner written ∧ value = e.value inner
  | numeral => IsNumeral written ∧ value = .number (String.ofList written)
  | word => (written ≠ [] ∧ ∀ c ∈ written, isWord c = true) ∧
      value = .bareword (String.ofList written)

/-- The value at the head of a text is in the first form that fits there, and no
text of that form which stands there is longer. -/
def IsFirst (text written : List Char) (value : ClauseValue) : Prop :=
  ∃ form : ValueForm, form.Writes written value ∧ written <+: text ∧
    ∀ other written' value', Writes other written' value' → written' <+: text →
      form.rank ≤ other.rank ∧ (other = form → written'.length ≤ written.length)

/-- The characters with which a form begins. -/
def startsWith (form : ValueForm) (c : Char) : Bool :=
  match form with
  | enclosed e => c == e.first
  | numeral => isDecimal c
  | word => isWord c

variable {form other : ValueForm} {text written rest : List Char}
  {value : ClauseValue}

theorem Writes.exists_head (h : form.Writes written value) :
    ∃ c cs, written = c :: cs ∧ form.startsWith c = true := by
  cases form with
  | enclosed e =>
      obtain ⟨inner, ⟨-, rfl⟩, -⟩ := h
      exact ⟨_, _, rfl, beq_self_eq_true e.first⟩
  | numeral =>
      obtain ⟨⟨whole, places, rfl, hne, hwhole, -⟩, -⟩ := h
      obtain ⟨c, cs, rfl⟩ := List.exists_cons_of_ne_nil hne
      exact ⟨c, cs ++ places, rfl, hwhole c List.mem_cons_self⟩
  | word =>
      obtain ⟨⟨hne, hword⟩, -⟩ := h
      obtain ⟨c, cs, rfl⟩ := List.exists_cons_of_ne_nil hne
      exact ⟨c, cs, rfl, hword c List.mem_cons_self⟩

theorem Writes.startsWith_of_head {c : Char} {cs : List Char}
    (h : form.Writes written value) (hhead : written <+: c :: cs) :
    form.startsWith c = true := by
  obtain ⟨d, ds, rfl, hd⟩ := h.exists_head
  obtain ⟨rest, heq⟩ := hhead
  rwa [(List.cons.inj heq).1] at hd

/-- The characters that open an enclosure are not of the other classes. -/
theorem eq_enclosed_of_startsWith {e : Enclosure}
    (h : form.startsWith e.first = true) :
    form = enclosed e := by
  cases form with
  | enclosed other =>
      cases e <;> cases other <;> first | rfl | exact absurd h (by decide)
  | numeral | word => cases e <;> exact absurd h (by decide)

theorem isBlank_eq_false_of_startsWith {c : Char}
    (h : form.startsWith c = true) :
    isBlank c = false := by
  cases form with
  | enclosed e =>
      obtain rfl := beq_iff_eq.1 h
      cases e <;> decide
  | numeral =>
      cases hblank : isBlank c with
      | false => rfl
      | true =>
          rw [startsWith, isDecimal_eq_false_of_isBlank hblank] at h
          contradiction
  | word => exact isBlank_eq_false_of_isWord h

theorem Writes.stops_isBlank (h : form.Writes written value)
    (rest : List Char) :
    Stops isBlank (written ++ rest) := by
  obtain ⟨c, cs, rfl, hc⟩ := h.exists_head
  exact stops_cons.2 (isBlank_eq_false_of_startsWith hc)

theorem Writes.value_unique {value' : ClauseValue}
    (h : form.Writes written value) (h' : form.Writes written value') :
    value = value' := by
  cases form with
  | enclosed e =>
      obtain ⟨inner, ⟨-, rfl⟩, rfl⟩ := h
      obtain ⟨inner', ⟨-, heq⟩, rfl⟩ := h'
      simp only [List.cons.injEq, true_and, List.append_left_inj] at heq
      rw [heq]
  | numeral | word => rw [h.2, h'.2]

theorem Writes.eq_word {word : String}
    (h : form.Writes written (.bareword word)) :
    form = .word := by
  cases form with
  | enclosed e =>
      obtain ⟨inner, -, hvalue⟩ := h
      cases e <;> contradiction
  | numeral => exact absurd h.2 (by simp)
  | word => rfl

theorem Writes.eq_numeral {number : String}
    (h : form.Writes written (.number number)) :
    form = .numeral := by
  cases form with
  | enclosed e =>
      obtain ⟨inner, -, hvalue⟩ := h
      cases e <;> contradiction
  | numeral => rfl
  | word => exact absurd h.2 (by simp)

/-- A text begins with one first value at most. -/
theorem IsFirst.unique {written' : List Char} {value' : ClauseValue}
    (h : IsFirst text written value) (h' : IsFirst text written' value') :
    written = written' ∧ value = value' := by
  obtain ⟨form, hwrites, hhead, hfirst⟩ := h
  obtain ⟨form', hwrites', hhead', hfirst'⟩ := h'
  obtain ⟨hrank, hlength⟩ := hfirst _ _ _ hwrites' hhead'
  obtain ⟨hrank', hlength'⟩ := hfirst' _ _ _ hwrites hhead
  have hform : form' = form := by
    have hsame : form'.rank = form.rank := by omega
    rcases form with ⟨_ | _ | _⟩ | _ | _ <;> rcases form' with
      ⟨_ | _ | _⟩ | _ | _ <;>
      first | rfl | exact absurd hsame (by decide)
  subst hform
  have hwritten : written = written' :=
    List.IsPrefix.eq_of_length
      (List.prefix_of_prefix_length_le hhead hhead' (hlength' rfl))
      (Nat.le_antisymm (hlength' rfl) (hlength rfl))
  subst hwritten
  exact ⟨rfl, hwrites.value_unique hwrites'⟩

/-- A bare word does not begin with a digit, since a number would fit there. -/
theorem IsFirst.stops_isDecimal {word : String}
    (h : IsFirst text written (.bareword word)) :
    Stops isDecimal word.toList := by
  obtain ⟨form, hwrites, hhead, hfirst⟩ := h
  obtain rfl := hwrites.eq_word
  obtain ⟨⟨hne, -⟩, hvalue⟩ := hwrites
  obtain rfl := ClauseValue.bareword.inj hvalue
  obtain ⟨c, cs, rfl⟩ := List.exists_cons_of_ne_nil hne
  rw [String.toList_ofList]
  refine stops_cons.2 (Bool.not_eq_true _ ▸ fun hc => ?_)
  have hdigit : IsNumeral [c] :=
    ⟨[c], [], rfl, List.cons_ne_nil c [], by simpa using hc, Or.inl rfl⟩
  have hone : [c] <+: text := (List.prefix_append [c] cs).trans hhead
  have hrank := (hfirst .numeral [c] _ ⟨hdigit, rfl⟩ hone).1
  exact absurd hrank (by decide)

end ValueForm

namespace Clause

open ValueForm

variable {text written rest : List Char} {value : ClauseValue}
  {form : ValueForm}

theorem eq_of_untilChar? {close : Char} {cs inner : List Char}
    (h : untilChar? close cs = some (inner, rest)) :
    close ∉ inner ∧ cs = inner ++ close :: rest := by
  induction cs generalizing inner with
  | nil => simp [untilChar?] at h
  | cons c cs ih =>
      rw [untilChar?] at h
      split at h
      next hc =>
          obtain ⟨rfl, rfl⟩ := Prod.mk.inj (Option.some.inj h)
          simp [hc]
      next hc =>
          obtain ⟨⟨inner', rest'⟩, hread, heq⟩ := Option.map_eq_some_iff.1 h
          obtain ⟨rfl, rfl⟩ := Prod.mk.inj heq
          obtain ⟨hinner, rfl⟩ := ih hread
          exact ⟨by simp [hinner, Ne.symm hc], rfl⟩

/-- A run at the head of a text is part of the longest one. -/
theorem length_le_takeWhile {p : Char → Bool} {run text : List Char}
    (hrun : ∀ c ∈ run, p c = true) (hhead : run <+: text) :
    run.length ≤ (text.takeWhile p).length := by
  obtain ⟨rest, rfl⟩ := hhead
  rw [List.takeWhile_append_of_pos hrun, List.length_append]
  omega

theorem takeNumber_point {whole digits : List Char}
    (hwhole : ∀ c ∈ whole, isDecimal c = true) (hne : digits ≠ [])
    (hdigits : ∀ c ∈ digits, isDecimal c = true) (rest : List Char) :
    (takeNumber (whole ++ '.' :: (digits ++ rest))).1 =
      whole ++ '.' :: (digits ++ rest.takeWhile isDecimal) := by
  have hpoint : Stops isDecimal ('.' :: (digits ++ rest)) :=
    stops_cons.2 (by decide)
  have hplaces : (digits ++ rest).takeWhile isDecimal =
      digits ++ rest.takeWhile isDecimal :=
    List.takeWhile_append_of_pos hdigits
  rw [takeNumber, takeWhile_run hwhole hpoint, dropWhile_run hwhole hpoint]
  simp only [hplaces]
  rw [if_neg (by simp [hne])]

/-- The number that is taken stands at the head of the text. -/
theorem takeNumber_isNumeral {cs : List Char}
    (hne : cs.takeWhile isDecimal ≠ []) :
    IsNumeral (takeNumber cs).1 ∧
      (takeNumber cs).1 ++ (takeNumber cs).2 = cs := by
  have hwhole : ∀ c ∈ cs.takeWhile isDecimal, isDecimal c = true := fun c hc =>
    List.mem_takeWhile_imp hc
  have hsplit : cs.takeWhile isDecimal ++ cs.dropWhile isDecimal = cs :=
    List.takeWhile_append_dropWhile
  have hplain : IsNumeral (cs.takeWhile isDecimal) :=
    ⟨_, [], (List.append_nil _).symm, hne, hwhole, Or.inl rfl⟩
  unfold takeNumber
  split
  next tail hdrop =>
      rw [hdrop] at hsplit
      simp only
      split
      next => exact ⟨hplain, hsplit⟩
      next hplaces =>
          have hdigits : ∀ c ∈ tail.takeWhile isDecimal, isDecimal c = true :=
            fun c hc =>
            List.mem_takeWhile_imp hc
          refine ⟨⟨_, _, rfl, hne, hwhole,
            Or.inr ⟨_, rfl, by simpa using hplaces, hdigits⟩⟩, ?_⟩
          rw [List.append_assoc, List.cons_append,
            List.takeWhile_append_dropWhile, hsplit]
  next => exact ⟨hplain, hsplit⟩

theorem takeWhile_length_le_takeNumber (cs : List Char) :
    (cs.takeWhile isDecimal).length ≤ (takeNumber cs).1.length := by
  unfold takeNumber
  split
  next =>
      simp only
      split
      · exact le_rfl
      · simp
  next => exact le_rfl

/-- No numeral at the head of a text is longer than the number that is taken. -/
theorem length_le_takeNumber {cs : List Char} (h : IsNumeral written)
    (hhead : written <+: cs) :
    written.length ≤ (takeNumber cs).1.length := by
  obtain ⟨whole, places, rfl, -, hwhole, rfl | ⟨digits, rfl, hne, hdigits⟩⟩ := h
  · rw [List.append_nil] at hhead ⊢
    exact (length_le_takeWhile hwhole hhead).trans
      (takeWhile_length_le_takeNumber cs)
  · obtain ⟨rest, rfl⟩ := hhead
    rw [List.append_assoc, List.cons_append,
      takeNumber_point hwhole hne hdigits]
    simp only [List.length_append, List.length_cons]
    omega

/-- A text begins with at most one text in the same enclosure. -/
theorem encloses_unique {e : Enclosure} {inner inner' written' : List Char}
    (h : e.Encloses inner written) (h' : e.Encloses inner' written')
    (hhead : written <+: text) (hhead' : written' <+: text) :
    written' = written := by
  obtain ⟨hlast, rfl⟩ := h
  obtain ⟨hlast', rfl⟩ := h'
  obtain ⟨rest, rfl⟩ := hhead
  obtain ⟨rest', heq⟩ := hhead'
  simp only [List.cons_append, List.append_assoc, List.nil_append,
    List.cons.injEq, true_and] at heq
  have hread : untilChar? e.last (inner ++ e.last :: rest) =
      some (inner, rest) :=
    untilChar?_append hlast
  rw [← heq, untilChar?_append hlast', Option.some.injEq,
    Prod.mk.injEq] at hread
  rw [hread.1]

theorem isFirst_enclosed {e : Enclosure} {inner : List Char}
    (h : e.Encloses inner written) (rest : List Char) :
    IsFirst (written ++ rest) written (e.value inner) := by
  have hhead : written <+: written ++ rest := List.prefix_append written rest
  refine ⟨.enclosed e, ⟨inner, h, rfl⟩, hhead, ?_⟩
  intro other written' value' hother hhead'
  have hstarts : other.startsWith e.first = true := by
    rw [h.2, List.cons_append] at hhead'
    exact hother.startsWith_of_head hhead'
  obtain rfl := eq_enclosed_of_startsWith hstarts
  obtain ⟨inner', hinner', -⟩ := hother
  exact ⟨le_rfl, fun _ =>
    (encloses_unique h hinner' hhead hhead').symm ▸ le_rfl⟩

variable {c : Char} {cs : List Char}

/-- A number is read before any word, and as far as it goes. -/
theorem isFirst_number (henclosure : ∀ e : Enclosure, c ≠ e.first)
    (hc : isDecimal c = true) :
    IsFirst (c :: cs) (takeNumber (c :: cs)).1
      (.number (String.ofList (takeNumber (c :: cs)).1)) := by
  have hne : (c :: cs).takeWhile isDecimal ≠ [] := by simp [hc]
  obtain ⟨hnumeral, happend⟩ := takeNumber_isNumeral hne
  refine ⟨.numeral, ⟨hnumeral, rfl⟩, ⟨_, happend⟩, ?_⟩
  intro other written' value' hother hhead'
  have hstarts := hother.startsWith_of_head hhead'
  cases other with
  | enclosed e => exact absurd (beq_iff_eq.1 hstarts) (henclosure e)
  | numeral => exact ⟨le_rfl, fun _ => length_le_takeNumber hother.1 hhead'⟩
  | word => exact ⟨by decide, nofun⟩

/-- A word is read where no other form fits, and as far as it goes. -/
theorem isFirst_word (henclosure : ∀ e : Enclosure, c ≠ e.first)
    (hdecimal : isDecimal c = false) (hc : isWord c = true) :
    IsFirst (c :: cs) ((c :: cs).takeWhile isWord)
      (.bareword (String.ofList ((c :: cs).takeWhile isWord))) := by
  have hne : (c :: cs).takeWhile isWord ≠ [] := by simp [hc]
  have hword : ∀ d ∈ (c :: cs).takeWhile isWord, isWord d = true := fun d hd =>
    List.mem_takeWhile_imp hd
  refine ⟨.word, ⟨⟨hne, hword⟩, rfl⟩, List.takeWhile_prefix isWord, ?_⟩
  intro other written' value' hother hhead'
  have hstarts := hother.startsWith_of_head hhead'
  cases other with
  | enclosed e => exact absurd (beq_iff_eq.1 hstarts) (henclosure e)
  | numeral =>
      rw [startsWith, hdecimal] at hstarts
      contradiction
  | word => exact ⟨le_rfl, fun _ => length_le_takeWhile hother.1.2 hhead'⟩

theorem valueAt?_enclosed (e : Enclosure) (cs : List Char) :
    valueAt? (e.first :: cs) =
      (untilChar? e.last cs).map fun (inner, rest) =>
        (e.value inner, rest) := by
  cases e <;> rfl

theorem valueAt?_plain (henclosure : ∀ e : Enclosure, c ≠ e.first) :
    valueAt? (c :: cs) =
      if isDecimal c then
        some (.number (String.ofList (takeNumber (c :: cs)).1),
          (takeNumber (c :: cs)).2)
      else if isWord c then
        some (.bareword (String.ofList ((c :: cs).takeWhile isWord)),
          (c :: cs).dropWhile isWord)
      else none := by
  have hdouble : c ≠ '"' := henclosure .doubleQuotes
  have hsingle : c ≠ '\'' := henclosure .singleQuotes
  have hbracket : c ≠ '[' := henclosure .brackets
  rw [valueAt?, if_neg hdouble, if_neg hsingle, if_neg hbracket]

/-- What is read at the head of a text is its first value. -/
theorem isFirst_of_valueAt? (h : valueAt? text = some (value, rest)) :
    ∃ written, text = written ++ rest ∧ IsFirst text written value := by
  cases text with
  | nil => simp [valueAt?] at h
  | cons c cs =>
      by_cases henclosure : ∃ e : Enclosure, c = e.first
      · obtain ⟨e, rfl⟩ := henclosure
        rw [valueAt?_enclosed] at h
        obtain ⟨⟨inner, rest'⟩, hread, heq⟩ := Option.map_eq_some_iff.1 h
        obtain ⟨rfl, rfl⟩ := Prod.mk.inj heq
        obtain ⟨hlast, rfl⟩ := eq_of_untilChar? hread
        have htext : e.first :: (inner ++ e.last :: rest') =
            e.first :: (inner ++ [e.last]) ++ rest' := by simp
        rw [htext]
        exact ⟨_, rfl, isFirst_enclosed ⟨hlast, rfl⟩ rest'⟩
      · rw [not_exists] at henclosure
        rw [valueAt?_plain henclosure] at h
        split at h
        next hdecimal =>
            obtain ⟨rfl, rfl⟩ := Prod.mk.inj (Option.some.inj h)
            have hne : (c :: cs).takeWhile isDecimal ≠ [] := by simp [hdecimal]
            exact ⟨_, (takeNumber_isNumeral hne).2.symm,
              isFirst_number henclosure hdecimal⟩
        next hdecimal =>
            split at h
            next hword =>
                obtain ⟨rfl, rfl⟩ := Prod.mk.inj (Option.some.inj h)
                exact ⟨_, List.takeWhile_append_dropWhile.symm,
                  isFirst_word henclosure (Bool.not_eq_true _ ▸ hdecimal) hword⟩
            next => contradiction

/-- Where a value of any form stands, one is read. -/
theorem isSome_valueAt? (h : form.Writes written value) (rest : List Char) :
    (valueAt? (written ++ rest)).isSome := by
  cases form with
  | enclosed e =>
      obtain ⟨inner, ⟨hlast, rfl⟩, -⟩ := h
      rw [List.cons_append, List.append_assoc, valueAt?_enclosed,
        List.singleton_append, untilChar?_append hlast]
      rfl
  | numeral | word =>
      obtain ⟨c, cs, rfl, hc⟩ := h.exists_head
      have henclosure : ∀ e : Enclosure, c ≠ e.first := by
        rintro e rfl
        cases eq_enclosed_of_startsWith hc
      rw [startsWith] at hc
      rw [List.cons_append, valueAt?_plain henclosure]
      split
      · rfl
      · simp_all

end Clause

end Stencil
