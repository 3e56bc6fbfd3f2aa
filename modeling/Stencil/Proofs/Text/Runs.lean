/-
Runs of characters at the head of a text.  A reader takes the longest run of a
class, so a run that was written is read back whole if what follows stops it.
-/
import Mathlib.Data.List.DropRight
import Stencil.Text.Split

namespace Stencil.Text

variable {p : Char → Bool} {run rest : List Char}

/-- A test of all members of a concrete text. -/
theorem forall_mem_of_all {P : Char → Prop} [DecidablePred P] {cs : List Char}
    (h : (cs.all fun c => decide (P c)) = true) : ∀ c ∈ cs, P c := by
  simpa using h

theorem trimBlanksEnd_eq_rdropWhile (cs : List Char) :
    trimBlanksEnd cs = cs.rdropWhile isBlank := rfl

theorem isPrefixOf?_append (piece rest : List Char) :
    piece.isPrefixOf? (piece ++ rest) = some rest :=
  List.isPrefixOf?_eq_some_iff_append_eq.2 rfl

/-- The next character, if there is one, does not satisfy `p`. -/
def Stops (p : Char → Bool) (cs : List Char) : Prop :=
  ∀ c ∈ cs.head?, p c = false

theorem stops_nil (p : Char → Bool) : Stops p [] := by
  simp [Stops]

theorem stops_cons {c : Char} {cs : List Char} :
    Stops p (c :: cs) ↔ p c = false := by
  simp [Stops]

instance (p : Char → Bool) (cs : List Char) : Decidable (Stops p cs) :=
  match cs with
  | [] => isTrue (stops_nil p)
  | c :: _ => decidable_of_iff (p c = false) stops_cons.symm

theorem takeWhile_eq_nil_of_stops (hrest : Stops p rest) :
    rest.takeWhile p = [] := by
  cases rest with
  | nil => rfl
  | cons c cs => simp [stops_cons.1 hrest]

theorem dropWhile_eq_self_of_stops (hrest : Stops p rest) :
    rest.dropWhile p = rest := by
  cases rest with
  | nil => rfl
  | cons c cs => simp [stops_cons.1 hrest]

theorem stops_dropWhile (p : Char → Bool) (cs : List Char) :
    Stops p (cs.dropWhile p) := by
  induction cs with
  | nil => exact stops_nil p
  | cons c cs ih =>
      rw [List.dropWhile_cons]
      split
      next => exact ih
      next hc => exact stops_cons.2 (Bool.not_eq_true _ ▸ hc)

theorem takeWhile_run (hrun : ∀ c ∈ run, p c = true) (hrest : Stops p rest) :
    (run ++ rest).takeWhile p = run := by
  rw [List.takeWhile_append_of_pos hrun, takeWhile_eq_nil_of_stops hrest,
    List.append_nil]

theorem dropWhile_run (hrun : ∀ c ∈ run, p c = true) (hrest : Stops p rest) :
    (run ++ rest).dropWhile p = rest := by
  rw [List.dropWhile_append_of_pos hrun, dropWhile_eq_self_of_stops hrest]

theorem dropWhile_append_of_stops (cs : List Char) (hrest : Stops p rest) :
    (cs ++ rest).dropWhile p = cs.dropWhile p ++ rest := by
  rw [List.dropWhile_append]
  split
  next hnil =>
      rw [dropWhile_eq_self_of_stops hrest, List.isEmpty_iff.1 hnil,
        List.nil_append]
  next => rfl

theorem stops_append {more : List Char} (hrest : Stops p rest)
    (hmore : Stops p more) :
    Stops p (rest ++ more) := by
  cases rest with
  | nil => exact hmore
  | cons c cs => exact stops_cons.2 (stops_cons.1 hrest)

theorem stops_of_append {more : List Char} (h : Stops p (rest ++ more)) :
    Stops p rest := by
  cases rest with
  | nil => exact stops_nil p
  | cons c cs => exact stops_cons.2 (stops_cons.1 h)

/-- Only the head of a text counts. -/
theorem stops_append_of_ne_nil (hne : rest ≠ []) (hrest : Stops p rest)
    (more : List Char) :
    Stops p (rest ++ more) := by
  cases rest with
  | nil => contradiction
  | cons c cs => exact stops_cons.2 (stops_cons.1 hrest)

/-- A text is cut into a run and what stops it in one way only. -/
theorem run_append_inj {run' rest' : List Char} (hrun : ∀ c ∈ run, p c = true)
    (hrest : Stops p rest) (hrun' : ∀ c ∈ run', p c = true)
    (hrest' : Stops p rest') (h : run ++ rest = run' ++ rest') :
    run = run' ∧ rest = rest' := by
  constructor
  · rw [← takeWhile_run hrun hrest, h, takeWhile_run hrun' hrest']
  · rw [← dropWhile_run hrun hrest, h, dropWhile_run hrun' hrest']

/-- A character of a class differs from one that is not of it. -/
theorem ne_of_class {c d : Char} (hc : p c = true) (hd : p d = false) :
    c ≠ d := by
  rintro rfl
  rw [hc] at hd
  contradiction

theorem not_mem_of_class {cs : List Char} {d : Char}
    (hcs : ∀ c ∈ cs, p c = true) (hd : p d = false) : d ∉ cs :=
  fun hmem => ne_of_class (hcs d hmem) hd rfl

/-- The code points of white space, one by one. -/
def blankCodes : List Nat :=
  [0x9, 0xA, 0xB, 0xC, 0xD, 0x20, 0x85, 0xA0, 0x1680, 0x2000, 0x2001, 0x2002,
    0x2003, 0x2004, 0x2005, 0x2006, 0x2007, 0x2008, 0x2009, 0x200A, 0x2028,
    0x2029, 0x202F, 0x205F, 0x3000]

theorem isBlank_iff_mem_blankCodes {c : Char} :
    isBlank c = true ↔ c.toNat ∈ blankCodes := by
  simp only [isBlank, blankCodes, Bool.or_eq_true, Bool.and_eq_true,
    decide_eq_true_eq, beq_iff_eq, List.mem_cons, List.not_mem_nil, or_false]
  omega

theorem isWord_eq_false_of_isBlank {c : Char} (hc : isBlank c = true) :
    isWord c = false := by
  have hcodes : ∀ n ∈ blankCodes, isWord (Char.ofNat n) = false := by
    decide +kernel
  have hword := hcodes c.toNat (isBlank_iff_mem_blankCodes.1 hc)
  rwa [Char.ofNat_toNat] at hword

theorem isBlank_eq_false_of_isWord {c : Char} (hc : isWord c = true) :
    isBlank c = false := by
  cases hblank : isBlank c with
  | false => rfl
  | true =>
      rw [isWord_eq_false_of_isBlank hblank] at hc
      contradiction

end Stencil.Text
