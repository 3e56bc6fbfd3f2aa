/-
Choosing a row.  The cursor of a choice wraps around at both ends, so the moves
of a user lead to a position on the rows repeated without end.  Whatever keys
are pressed, the cursor stays on a row, and what is taken is the value of that
row.
-/
import Mathlib.Data.Int.Basic
import Stencil.Proofs.Prompt.Collection

namespace Stencil

namespace Question

/-- The row at a position, the rows being repeated without end in both
directions. -/
def rowAt {α : Type} (rows : List α) (position : Int) : Nat :=
  (position % rows.length).toNat

section Position

variable {α : Type} {rows : List α}

theorem rowAt_eq (hrows : rows ≠ []) (position : Int) :
    (rowAt rows position : Int) = position % rows.length := by
  have hlength : (rows.length : Int) ≠ 0 := by simpa using hrows
  exact Int.toNat_of_nonneg (Int.emod_nonneg position hlength)

theorem rowAt_lt (hrows : rows ≠ []) (position : Int) :
    rowAt rows position < rows.length := by
  have hlength : 0 < (rows.length : Int) :=
    Int.natCast_pos.2 (List.length_pos_iff.2 hrows)
  have hlt := Int.emod_lt_of_pos position hlength
  rw [← rowAt_eq hrows] at hlt
  exact Int.ofNat_lt.1 hlt

theorem rowAt_row {row : Nat} (hrow : row < rows.length) :
    rowAt rows row = row := by
  rw [rowAt, Int.emod_eq_of_lt (Int.natCast_nonneg row) (Int.ofNat_lt.2 hrow),
    Int.toNat_natCast]

end Position

variable {rows : List String} {cursor : Nat}

/-- Moving down goes to the next position, also from the last row. -/
theorem rowBelow_rowAt (hrows : rows ≠ []) (position : Int) :
    rowBelow rows (rowAt rows position) = rowAt rows (position + 1) := by
  apply Int.ofNat.inj
  simp only [Int.ofNat_eq_natCast]
  rw [rowAt_eq hrows, rowBelow]
  push_cast
  rw [rowAt_eq hrows, Int.emod_add_emod]

/-- Moving up goes to the position before, also from the first row. -/
theorem rowAbove_rowAt (hrows : rows ≠ []) (position : Int) :
    rowAbove rows (rowAt rows position) = rowAt rows (position - 1) := by
  have hlength : 1 ≤ rows.length := List.length_pos_iff.2 hrows
  have hshift : position + (rows.length - 1) =
      position - 1 + rows.length := by omega
  apply Int.ofNat.inj
  simp only [Int.ofNat_eq_natCast]
  rw [rowAt_eq hrows, rowAbove]
  push_cast [hlength]
  rw [rowAt_eq hrows, Int.emod_add_emod, hshift, Int.add_emod_right]

/-- After moves up and down, Enter takes the row that they lead to. -/
theorem ask_moves (hrows : rows ≠ []) {moves : List Key}
    (hmoves : ∀ key ∈ moves, key = .up ∨ key = .down) (position : Int)
    (rest : List Key) :
    (choice rows (rowAt rows position)).ask (moves ++ .enter :: rest) =
      .ok (.string
        ((rows[rowAt rows
          (position + moves.count .down - moves.count .up)]?).getD ""),
        rest) := by
  induction moves generalizing position with
  | nil => simp [ask, press]
  | cons key moves ih =>
      rw [List.forall_mem_cons] at hmoves
      obtain ⟨hkey, hmoves⟩ := hmoves
      rw [List.cons_append]
      rcases hkey with rfl | rfl
      · have hpress : (choice rows (rowAt rows position)).press .up =
            .open (choice rows (rowAt rows (position - 1))) := by
          rw [← rowAbove_rowAt hrows]
          rfl
        have hdown : (Key.up :: moves).count .down = moves.count .down :=
          List.count_cons_of_ne (by decide)
        have hup : (Key.up :: moves).count .up = moves.count .up + 1 :=
          List.count_cons_self
        have hposition : position - 1 + moves.count .down - moves.count .up =
            position + moves.count .down -
              ((moves.count .up + 1 : Nat) : Int) := by omega
        rw [ask_of_open (by decide) hpress, ih hmoves, hdown, hup, hposition]
      · have hpress : (choice rows (rowAt rows position)).press .down =
            .open (choice rows (rowAt rows (position + 1))) := by
          rw [← rowBelow_rowAt hrows]
          rfl
        have hdown : (Key.down :: moves).count .down = moves.count .down + 1 :=
          List.count_cons_self
        have hup : (Key.down :: moves).count .up = moves.count .up :=
          List.count_cons_of_ne (by decide)
        have hposition : position + 1 + moves.count .down - moves.count .up =
            position + ((moves.count .down + 1 : Nat) : Int) -
              moves.count .up := by omega
        rw [ask_of_open (by decide) hpress, ih hmoves, hdown, hup, hposition]

/-- A key takes the row under the cursor or leaves the cursor on a row. -/
theorem press_choice_cases (hcursor : cursor < rows.length) (key : Key) :
    (choice rows cursor).press key = .answer (.string rows[cursor]) ∨
      ∃ next < rows.length, (choice rows cursor).press key =
        .open (choice rows next) := by
  have htake : (rows[cursor]?).getD "" = rows[cursor] := by
    rw [List.getElem?_eq_getElem hcursor, Option.getD_some]
  have hpos : 0 < rows.length := Nat.zero_lt_of_lt hcursor
  have hbelow : rowBelow rows cursor < rows.length := Nat.mod_lt _ hpos
  have habove : rowAbove rows cursor < rows.length := Nat.mod_lt _ hpos
  rw [← htake]
  cases key with
  | enter => exact Or.inl rfl
  | down | tab => exact Or.inr ⟨_, hbelow, rfl⟩
  | up | backTab => exact Or.inr ⟨_, habove, rfl⟩
  | char c =>
      by_cases hspace : c = ' '
      · subst hspace
        exact Or.inl rfl
      by_cases hj : c = 'j'
      · subst hj
        exact Or.inr ⟨_, hbelow, rfl⟩
      by_cases hk : c = 'k'
      · subst hk
        exact Or.inr ⟨_, habove, rfl⟩
      · exact Or.inr ⟨_, hcursor, by simp [press, hspace, hj, hk]⟩
  | backspace | left | right | wordLeft | wordRight | interrupt | other =>
      exact Or.inr ⟨_, hcursor, rfl⟩

/-- Whatever is pressed, a choice is answered by one of its rows. -/
theorem exists_row_of_ask (hcursor : cursor < rows.length)
    {keys rest : List Key} {value : Json}
    (h : (choice rows cursor).ask keys = .ok (value, rest)) :
    ∃ row ∈ rows, value = .string row := by
  induction keys generalizing cursor with
  | nil => contradiction
  | cons key keys ih =>
      by_cases hkey : key = .interrupt
      · subst hkey
        contradiction
      · rcases press_choice_cases hcursor key with
          hanswer | ⟨next, hnext, hopen⟩
        · rw [ask_of_answer hkey hanswer] at h
          obtain ⟨rfl, rfl⟩ := Prod.mk.inj (Except.ok.inj h)
          exact ⟨rows[cursor], List.getElem_mem hcursor, rfl⟩
        · rw [ask_of_open hkey hopen] at h
          exact ih hnext h

end Question

namespace Variable

variable {v : Variable}

/-- The row that a choice is to start on: the first row with the default in it,
or the first row of all if the default is empty or none of the options. -/
inductive StartsOn (v : Variable) : Nat → Prop
  | preset {row : Nat} {preset : String} (given : v.default = some preset)
      (filled : preset ≠ "")
      (here : v.rows[row]? = some (some preset))
      (first : ∀ earlier < row, v.rows[earlier]? ≠ some (some preset)) :
        StartsOn v row
  | top (absent : ∀ preset, v.default = some preset → preset ≠ "" →
      preset ∉ v.options) :
      StartsOn v 0

theorem some_mem_rows_iff {option : String} :
    some option ∈ v.rows ↔ option ∈ v.options := by
  rw [rows]
  split <;> simp

theorem rows_ne_nil (hoptions : v.options ≠ []) : v.rows ≠ [] := by
  rw [rows]
  split
  · simpa using hoptions
  · exact List.cons_ne_nil _ _

theorem StartsOn.unique {row other : Nat} (hrow : v.StartsOn row)
    (hother : v.StartsOn other) :
    row = other := by
  have hmem : ∀ {row preset}, v.rows[row]? = some (some preset) →
      preset ∈ v.options :=
    fun here => some_mem_rows_iff.1 (List.mem_of_getElem? here)
  cases hrow with
  | top absent =>
      cases hother with
      | top => rfl
      | preset given filled here first =>
          exact absurd (hmem here) (absent _ given filled)
  | preset given filled here first =>
      cases hother with
      | top absent => exact absurd (hmem here) (absent _ given filled)
      | preset given' filled' here' first' =>
          obtain rfl := Option.some.inj (given.symm.trans given')
          rcases Nat.lt_trichotomy row other with hlt | heq | hlt
          · exact absurd here (first' row hlt)
          · exact heq
          · exact absurd here' (first other hlt)

theorem StartsOn.lt_length (hoptions : v.options ≠ []) {row : Nat}
    (h : v.StartsOn row) :
    row < v.rows.length := by
  cases h with
  | top => exact List.length_pos_iff.2 (rows_ne_nil hoptions)
  | preset given filled here => exact (List.getElem?_eq_some_iff.1 here).1

/-- A default that is one of the options is in the row where a choice starts. -/
theorem StartsOn.preset_row {row : Nat} {preset : String} (h : v.StartsOn row)
    (given : v.default = some preset) (filled : preset ≠ "")
    (hmem : preset ∈ v.options) :
    v.rows[row]? = some (some preset) := by
  cases h with
  | top absent => exact absurd hmem (absent preset given filled)
  | preset given' filled' here first =>
      rw [given] at given'
      rw [here, given']

/-- An option stands in the row of its number, or one row lower behind the added
row. -/
theorem getElem?_rows (v : Variable) (i : Nat) :
    v.rows[if v.required then i else i + 1]? = v.options[i]?.map some := by
  rw [rows]
  cases v.required with
  | true => simp
  | false => simp

/-- The rows in front of an option hold the options before it, behind the added
row. -/
theorem exists_option_of_lt {i row : Nat} {option : String}
    (hrow : row < if v.required then i else i + 1)
    (h : v.rows[row]? = some (some option)) :
    ∃ j < i, v.options[j]? = some option := by
  rw [rows] at h
  cases hrequired : v.required with
  | true =>
      rw [hrequired, if_pos rfl] at h hrow
      exact ⟨row, hrow, by simpa using h⟩
  | false =>
      rw [hrequired, if_neg Bool.false_ne_true] at h hrow
      cases row with
      | zero => simp at h
      | succ j => exact ⟨j, Nat.lt_of_succ_lt_succ hrow, by simpa using h⟩

theorem startsOn_presetRow (v : Variable) : v.StartsOn v.presetRow := by
  rw [presetRow]
  cases hfind : v.effectiveDefault.bind fun preset =>
    v.options.findIdx? (· = preset) with
  | none =>
      apply StartsOn.top
      intro preset given filled hmem
      have hdefault := effectiveDefault_eq_some_iff.2 ⟨given, filled⟩
      rw [hdefault, Option.bind_some, List.findIdx?_eq_none_iff] at hfind
      simpa using hfind preset hmem
  | some i =>
      obtain ⟨preset, hdefault, hindex⟩ := Option.bind_eq_some_iff.1 hfind
      obtain ⟨given, filled⟩ := effectiveDefault_eq_some_iff.1 hdefault
      obtain ⟨hi, hhere, hfirst⟩ := List.findIdx?_eq_some_iff_getElem.1 hindex
      have hpreset : v.options[i] = preset := by simpa using hhere
      apply StartsOn.preset given filled
      · rw [getElem?_rows, List.getElem?_eq_getElem hi, hpreset]
        rfl
      · intro earlier hearlier hrow
        obtain ⟨j, hj, hoption⟩ := exists_option_of_lt hearlier hrow
        have hne := hfirst j hj
        obtain ⟨hlt, heq⟩ := List.getElem?_eq_some_iff.1 hoption
        simp [heq] at hne

theorem startsOn_iff {row : Nat} : v.StartsOn row ↔ row = v.presetRow := by
  constructor
  · intro h
    exact h.unique v.startsOn_presetRow
  · rintro rfl
    exact v.startsOn_presetRow

theorem question_select (hselect : v.type = .select)
    (hoptions : v.options ≠ []) :
    v.question = .choice v.choiceRows v.presetRow := by
  have hempty : v.options.isEmpty = false := by simpa using hoptions
  rw [question, hselect, hempty]
  rfl

/-- The value of a row is the text of its option, and empty for the added
row. -/
theorem getElem?_choiceRows {i : Nat} {row : Option String}
    (h : v.rows[i]? = some row) :
    (v.choiceRows[i]?).getD "" = row.getD "" := by
  rw [choiceRows, List.getElem?_map, h]
  rfl

/-- A choice takes the row that the user is on.  It starts on the first row with
the default in it, or else on the first row of all, which is always a row; each
move goes to the next row down or up, around both ends, and Enter takes the
value of the row, which is stored under the name of the variable.  Whatever keys
are pressed, a variable that is required gets one of its options. -/
theorem choice_takes_row (hselect : v.type = .select)
    (hoptions : v.options ≠ []) :
    (∀ row, v.StartsOn row ↔ row = v.presetRow) ∧ v.presetRow < v.rows.length ∧
      (∀ moves rest, (∀ key ∈ moves, key = .up ∨ key = .down) →
        ∃ row, v.rows[Question.rowAt v.rows
            (v.presetRow + moves.count .down - moves.count .up)]? = some row ∧
          v.question.ask (moves ++ .enter :: rest) =
            .ok (.string (row.getD ""), rest) ∧
          ∀ environment wording now files provided,
            provided.contains v.name = false →
            ((Session.host environment wording now).collect false
              [v] provided).run.run
                ⟨files, some (moves ++ .enter :: rest), true⟩ =
              (.ok (provided.insert v.name (.string (row.getD ""))),
                ⟨files, some rest, true⟩)) ∧
      (v.required = true → ∀ keys value rest,
        v.question.ask keys = .ok (value, rest) →
        ∃ option ∈ v.options, value = .string option) := by
  have hrows := rows_ne_nil hoptions
  have hlength : v.choiceRows.length = v.rows.length := List.length_map _
  have hchoice : v.choiceRows ≠ [] := by simpa [choiceRows] using hrows
  have hstart : v.presetRow < v.choiceRows.length :=
    hlength ▸ v.startsOn_presetRow.lt_length hoptions
  refine ⟨fun row => startsOn_iff, hlength ▸ hstart, ?_, ?_⟩
  · intro moves rest hmoves
    have hlt :=
      Question.rowAt_lt hrows
        (v.presetRow + moves.count .down - moves.count .up)
    have hask := Question.ask_moves hchoice hmoves v.presetRow rest
    rw [Question.rowAt_row hstart] at hask
    refine ⟨_, List.getElem?_eq_getElem hlt, ?_⟩
    have hvalue := getElem?_choiceRows (List.getElem?_eq_getElem hlt)
    have hrow : Question.rowAt v.choiceRows
        (v.presetRow + moves.count .down - moves.count .up) =
        Question.rowAt v.rows
          (v.presetRow + moves.count .down - moves.count .up) := by
      rw [Question.rowAt, Question.rowAt, hlength]
    rw [← question_select hselect hoptions, hrow, hvalue] at hask
    exact ⟨hask, fun environment wording now files provided hmissing =>
      Host.run_collect_answer environment wording now hmissing hask⟩
  · intro hrequired keys value rest h
    rw [question_select hselect hoptions] at h
    obtain ⟨text, htext, rfl⟩ := Question.exists_row_of_ask hstart h
    refine ⟨text, ?_, rfl⟩
    simpa [choiceRows, rows, hrequired] using htext

/-- A shop offers a size twice, and sizes without a name and with an odd one. -/
def shopVariable : Variable :=
  { name := "size", type := .select, options := ["M", "", "(none)", "M"],
    default := some "M" }

/-- From the default, which is the second row, three moves up and one down lead
around the top to the last row, and one more move up to an option that is
spelled like the added row. -/
theorem choice_takes_row_shop :
    shopVariable.type = .select ∧ shopVariable.options ≠ [] ∧
      shopVariable.question.ask [.up, .down, .up, .up, .enter] =
        .ok (.string "M", []) ∧
      shopVariable.question.ask [.up, .down, .up, .up, .up, .enter] =
        .ok (.string "(none)", []) := by
  have htakes := choice_takes_row (v := shopVariable) rfl (by decide)
  refine ⟨rfl, by decide, ?_, ?_⟩
  · obtain ⟨row, hrow, hask, -⟩ :=
      htakes.2.2.1 [.up, .down, .up, .up] [] (by decide)
    obtain rfl : some "M" = row := by
      apply Option.some.inj
      rw [← hrow]
      decide +kernel
    exact hask
  · obtain ⟨row, hrow, hask, -⟩ := htakes.2.2.1 [.up, .down, .up, .up, .up] []
      (by decide)
    obtain rfl : some "(none)" = row := by
      apply Option.some.inj
      rw [← hrow]
      decide +kernel
    exact hask

end Variable

end Stencil
