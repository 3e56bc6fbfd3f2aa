/-
Numerals read back.  A double is written with a fraction or an exponent, so it
is read as a double again, and an integer of 64 bits is read as an integer.
-/
import Stencil.Json.Reader
import Stencil.Json.Writer
import Stencil.Proofs.Number.Digits
import Stencil.Proofs.Number.ShortestReadBack
import Stencil.Proofs.Number.WholeNumber

namespace Stencil.Json

open Text

/-- The characters with which a numeral can go on. -/
def continuesNumber (c : Char) : Bool :=
  c.isDigit || c == '.' || c == 'e' || c == 'E'

theorem stops_digit_of_stops {rest : List Char}
    (h : Stops continuesNumber rest) :
    Stops Char.isDigit rest := by
  intro c hc
  have hnot := h c hc
  unfold continuesNumber at hnot
  simp only [Bool.or_eq_false_iff] at hnot
  exact hnot.1.1.1

/-- The whole part of a numeral: digits without a superfluous zero in front. -/
def WholeDigits (ds : List Char) : Prop :=
  ds ≠ [] ∧ (∀ c ∈ ds, c.isDigit = true) ∧ (ds.head? = some '0' → ds = ['0'])

theorem wholeDigits_zero : WholeDigits ['0'] :=
  ⟨by decide, forall_mem_of_all (by decide), fun _ => rfl⟩

theorem wholeDigits_toDigits (n : Nat) : WholeDigits (Nat.toDigits 10 n) := by
  refine ⟨Nat.toDigits_ne_nil, Numeral.isDigit_of_mem_toDigits, ?_⟩
  intro hzero
  rcases Nat.eq_zero_or_pos n with rfl | hpos
  · rfl
  · exact absurd hzero (Numeral.head?_toDigits hpos)

theorem readWhole?_digits {ds rest : List Char} (hds : WholeDigits ds)
    (hrest : Stops Char.isDigit rest) :
    readWhole? (ds ++ rest) = some (ds, rest) := by
  obtain ⟨hne, hdigits, hzero⟩ := hds
  cases ds with
  | nil => contradiction
  | cons c cs =>
      by_cases hc : c = '0'
      · subst hc
        obtain rfl : cs = [] := (List.cons.inj (hzero rfl)).2
        cases rest with
        | nil => rfl
        | cons d rest =>
            have hd := stops_cons.1 hrest
            simp [readWhole?, hd]
      · have htake := takeWhile_run hdigits hrest
        have hdrop := dropWhile_run hdigits hrest
        unfold readWhole?
        split
        next heq => exact absurd (List.cons.inj heq).1 hc
        next =>
            rw [htake, hdrop]
            rfl

theorem readFraction?_digits {ds rest : List Char} (hne : ds ≠ [])
    (hdigits : ∀ c ∈ ds, c.isDigit = true) (hrest : Stops Char.isDigit rest) :
    readFraction? ('.' :: ds ++ rest) = some (some ds, rest) := by
  have htake := takeWhile_run hdigits hrest
  have hdrop := dropWhile_run hdigits hrest
  simp [readFraction?, htake, hdrop, hne]

theorem readFraction?_none {rest : List Char} (hrest : rest.head? ≠ some '.') :
    readFraction? rest = some (none, rest) := by
  unfold readFraction?
  split
  next => simp at hrest
  next => rfl

/-- An exponent with its mark; a positive one has a sign. -/
def powerChars (z : Int) : List Char :=
  'e' :: (if 0 ≤ z then ['+'] else []) ++ (toString z).toList

theorem readPower?_power (z : Int) {rest : List Char}
    (hrest : Stops Char.isDigit rest) :
    readPower? (powerChars z ++ rest) = some (some z, rest) := by
  have htake :=
    takeWhile_run (Numeral.isDigit_of_mem_toDigits (n := z.natAbs)) hrest
  have hdrop :=
    dropWhile_run (Numeral.isDigit_of_mem_toDigits (n := z.natAbs)) hrest
  unfold powerChars readPower?
  rw [Numeral.toList_toString_int]
  by_cases hneg : z < 0
  · rw [if_neg (by omega), if_pos hneg]
    simp [Numeral.takeSign, htake, hdrop, Numeral.digitsValue_toDigits,
      Double.signed_true_natAbs hneg]
  · rw [if_pos (by omega), if_neg hneg]
    simp [Numeral.takeSign, htake, hdrop, Numeral.digitsValue_toDigits,
      Double.signed_false_natAbs (Int.not_lt.1 hneg)]

theorem readPower?_none {rest : List Char}
    (hrest : Stops continuesNumber rest) :
    readPower? rest = some (none, rest) := by
  cases rest with
  | nil => rfl
  | cons c cs =>
      have hnot := stops_cons.1 hrest
      unfold continuesNumber at hnot
      simp only [Bool.or_eq_false_iff, beq_eq_false_iff_ne] at hnot
      rw [readPower?, if_neg (by tauto)]

/-- The parts of a numeral without its sign. -/
structure NumberParts where
  whole : List Char
  fraction? : Option (List Char)
  power? : Option Int

namespace NumberParts

def fractionChars (p : NumberParts) : List Char :=
  match p.fraction? with
  | none => []
  | some ds => '.' :: ds

def powerChars (p : NumberParts) : List Char :=
  match p.power? with
  | none => []
  | some z => Json.powerChars z

def chars (p : NumberParts) : List Char :=
  p.whole ++ (p.fractionChars ++ p.powerChars)

structure Valid (p : NumberParts) : Prop where
  whole : WholeDigits p.whole
  fraction : ∀ ds ∈ p.fraction?, ds ≠ [] ∧ ∀ c ∈ ds, c.isDigit = true

/-- All digits as one number. -/
def digits (p : NumberParts) : Nat :=
  Numeral.digitsValue (p.whole ++ p.fraction?.getD [])

/-- The exponent that belongs to that number. -/
def exponent (p : NumberParts) : Int :=
  p.power?.getD 0 - (p.fraction?.getD []).length

/-- Without fraction and exponent a numeral is an integer literal. -/
def toJson? (negative : Bool) (p : NumberParts) : Option Json :=
  match p.fraction?, p.power? with
  | none, none => ofIntegerLiteral? negative (Numeral.digitsValue p.whole)
  | _, _ =>
      let x := Double.ofDecimal negative p.digits p.exponent
      if x.isFinite then some (number x) else none

end NumberParts

/-- A minus sign, and what follows it. -/
def takeMinus (cs : List Char) : Bool × List Char :=
  match cs with
  | '-' :: rest => (true, rest)
  | _ => (false, cs)

theorem takeMinus_sign (negative : Bool) {body : List Char}
    (hbody : body.head? ≠ some '-') :
    takeMinus ((if negative then ['-'] else []) ++ body) =
      (negative, body) := by
  cases negative with
  | true => rfl
  | false =>
      simp only [Bool.false_eq_true, if_false, List.nil_append]
      unfold takeMinus
      split
      next => simp at hbody
      next => rfl

/-- Reading a numeral finds its parts and puts them together. -/
theorem readNumber?_eq (cs : List Char) :
    readNumber? cs = (readWhole? (takeMinus cs).2).bind fun whole =>
      (readFraction? whole.2).bind fun fraction =>
        (readPower? fraction.2).bind fun power =>
        (NumberParts.toJson? (takeMinus cs).1
          ⟨whole.1, fraction.1, power.1⟩).map (·, power.2) := by
  unfold readNumber? takeMinus
  simp only [Option.bind_eq_bind]
  congr 1
  funext whole
  congr 1
  funext fraction
  congr 1
  funext power
  unfold NumberParts.toJson?
  cases fraction.1 with
  | none =>
      cases power.1 with
      | none => rfl
      | some z =>
          rw [apply_ite (Option.map (·, power.2))]
          rfl
  | some ds =>
      rw [apply_ite (Option.map (·, power.2))]
      rfl

section Parts

variable {p : NumberParts} {rest : List Char}

theorem readPower?_part (p : NumberParts) (hrest : Stops continuesNumber rest) :
    readPower? (p.powerChars ++ rest) = some (p.power?, rest) := by
  unfold NumberParts.powerChars
  cases p.power? with
  | none => exact readPower?_none hrest
  | some z => exact readPower?_power z (stops_digit_of_stops hrest)

theorem stops_powerChars (p : NumberParts)
    (hrest : Stops continuesNumber rest) :
    Stops Char.isDigit (p.powerChars ++ rest) ∧
      (p.powerChars ++ rest).head? ≠ some '.' := by
  unfold NumberParts.powerChars
  cases p.power? with
  | none =>
      refine ⟨stops_digit_of_stops hrest, ?_⟩
      intro hpoint
      have hnot := hrest '.' hpoint
      simp [continuesNumber] at hnot
  | some z => exact ⟨stops_cons.2 (by decide), by simp [powerChars]⟩

theorem readFraction?_part (hp : p.Valid) (hrest : Stops continuesNumber rest) :
    readFraction? (p.fractionChars ++ (p.powerChars ++ rest)) =
      some (p.fraction?, p.powerChars ++ rest) := by
  obtain ⟨hstops, hpoint⟩ := stops_powerChars p hrest
  have hfraction := hp.fraction
  unfold NumberParts.fractionChars
  cases hvalue : p.fraction? with
  | none => exact readFraction?_none hpoint
  | some ds =>
      obtain ⟨hne, hdigits⟩ := hfraction ds hvalue
      exact readFraction?_digits hne hdigits hstops

theorem stops_fractionChars (p : NumberParts)
    (hrest : Stops continuesNumber rest) :
    Stops Char.isDigit (p.fractionChars ++ (p.powerChars ++ rest)) := by
  unfold NumberParts.fractionChars
  cases p.fraction? with
  | none => exact (stops_powerChars p hrest).1
  | some ds => exact stops_cons.2 (by decide)

/-- A numeral is read part by part. -/
theorem readNumber?_parts (negative : Bool) (hp : p.Valid)
    (hrest : Stops continuesNumber rest) :
    readNumber? ((if negative then ['-'] else []) ++ (p.chars ++ rest)) =
      (p.toJson? negative).map (·, rest) := by
  have hminus : (p.chars ++ rest).head? ≠ some '-' := by
    obtain ⟨hne, hdigits, -⟩ := hp.whole
    obtain ⟨c, cs, hwhole⟩ := List.exists_cons_of_ne_nil hne
    intro hhead
    rw [NumberParts.chars, hwhole] at hhead
    have hc := hdigits c (by rw [hwhole]; exact List.mem_cons_self)
    rw [Option.some.inj hhead] at hc
    contradiction
  rw [readNumber?_eq, takeMinus_sign negative hminus, NumberParts.chars,
    List.append_assoc, List.append_assoc,
    readWhole?_digits hp.whole (stops_fractionChars p hrest), Option.bind_some,
    readFraction?_part hp hrest, Option.bind_some, readPower?_part p hrest,
    Option.bind_some]

end Parts

theorem of_ofDouble? {x : Double} {j : Json}
    (h : ofIntegerLiteral?.ofDouble? x = some j) :
    x.isFinite = true ∧ j = number x := by
  unfold ofIntegerLiteral?.ofDouble? at h
  split at h
  next hfinite => exact ⟨hfinite, (Option.some.inj h).symm⟩
  next => contradiction

/-- What an integer literal is read as: a zero with its sign, an integer if a
word holds it, or the double that it is rounded to. -/
theorem ofIntegerLiteral?_cases {negative : Bool} {n : Nat} {j : Json}
    (h : ofIntegerLiteral? negative n = some j) :
    (negative = true ∧ n = 0 ∧ j = number (Double.zero true)) ∨
      (Numeral.inWord64 (Double.signed negative n) = true ∧
        j = integer (Double.signed negative n)) ∨
      (Numeral.inWord64 (Double.signed negative n) = false ∧
        (Double.ofRatio negative n 1).isFinite = true ∧
        j = number (Double.ofRatio negative n 1)) := by
  rw [← Double.ofDecimal_whole]
  unfold ofIntegerLiteral? at h
  cases negative with
  | true =>
      rw [if_pos rfl] at h
      split at h
      next hzero => exact Or.inl ⟨rfl, hzero, (Option.some.inj h).symm⟩
      split at h
      next hword => exact Or.inr (Or.inl ⟨hword, (Option.some.inj h).symm⟩)
      next hlarge =>
          exact Or.inr (Or.inr ⟨Bool.eq_false_iff.2 hlarge, of_ofDouble? h⟩)
  | false =>
      rw [if_neg Bool.false_ne_true] at h
      split at h
      next hword => exact Or.inr (Or.inl ⟨hword, (Option.some.inj h).symm⟩)
      next hlarge =>
          exact Or.inr (Or.inr ⟨Bool.eq_false_iff.2 hlarge, of_ofDouble? h⟩)

/-- An integer of 64 bits is read back as the same integer. -/
theorem readNumber?_integer {n : Int} (hn : Numeral.inWord64 n = true)
    {rest : List Char} (hrest : Stops continuesNumber rest) :
    readNumber? ((toString n).toList ++ rest) = some (integer n, rest) := by
  have hvalid : NumberParts.Valid ⟨Nat.toDigits 10 n.natAbs, none, none⟩ :=
    ⟨wholeDigits_toDigits n.natAbs, nofun⟩
  have hread := readNumber?_parts (n < 0) hvalid hrest
  simp only [NumberParts.chars, NumberParts.fractionChars,
    NumberParts.powerChars, List.append_nil, NumberParts.toJson?,
    Numeral.digitsValue_toDigits, decide_eq_true_eq] at hread
  rw [Numeral.toList_toString_int, List.append_assoc, hread]
  by_cases hneg : n < 0
  · have habs : -(n.natAbs : Int) = n := by omega
    have hne : n.natAbs ≠ 0 := by omega
    rw [decide_eq_true hneg, ofIntegerLiteral?, if_pos rfl, if_neg hne, habs,
      if_pos hn]
    rfl
  · have habs : (n.natAbs : Int) = n := by omega
    rw [decide_eq_false hneg, ofIntegerLiteral?, if_neg (by simp), habs,
      if_pos hn]
    rfl

/-- The numeral says the decimal `d · 10 ^ k`, with a fraction or an
exponent. -/
structure NumberParts.Spells (p : NumberParts) (d : Nat) (k : Int) :
    Prop extends p.Valid where
  isDecimal : p.fraction? ≠ none ∨ p.power? ≠ none
  value : (p.digits * 10 ^ p.exponent : ℚ) = d * 10 ^ k

section Layouts

variable {ds : List Char} {d : Nat} {k : Int}

/-- Digits without a zero in front, which denote a number. -/
structure DigitsOf (ds : List Char) (d : Nat) : Prop where
  ne_nil : ds ≠ []
  isDigit : ∀ c ∈ ds, c.isDigit = true
  lead : ds.head? ≠ some '0'
  value : Numeral.digitsValue ds = d

theorem digitsOf_toDigits (hd : 0 < d) : DigitsOf (Nat.toDigits 10 d) d :=
  ⟨Nat.toDigits_ne_nil, Numeral.isDigit_of_mem_toDigits,
    Numeral.head?_toDigits hd, Numeral.digitsValue_toDigits d⟩

theorem wholeDigits_append {more : List Char} (hne : ds ≠ [])
    (hlead : ds.head? ≠ some '0')
    (hdigits : ∀ c ∈ ds ++ more, c.isDigit = true) :
    WholeDigits (ds ++ more) := by
  obtain ⟨c, cs, rfl⟩ := List.exists_cons_of_ne_nil hne
  exact ⟨List.cons_ne_nil _ _, hdigits, fun hzero => absurd hzero hlead⟩

theorem isDigit_of_mem_zeros {n : Nat} {c : Char}
    (hc : c ∈ List.replicate n '0') :
    c.isDigit = true := by
  rw [List.eq_of_mem_replicate hc]
  rfl

/-- A whole number: zeros fill the places up to the point, and one follows
it. -/
theorem spells_whole (hds : DigitsOf ds d) (hk : 0 ≤ k) :
    NumberParts.Spells ⟨ds ++ List.replicate k.toNat '0', some ['0'], none⟩
      d k := by
  refine ⟨⟨?_, ?_⟩, Or.inl (by simp), ?_⟩
  · apply wholeDigits_append hds.ne_nil hds.lead
    intro c hc
    rcases List.mem_append.1 hc with hc | hc
    · exact hds.isDigit c hc
    · exact isDigit_of_mem_zeros hc
  · intro fraction hfraction
    obtain rfl := Option.some.inj hfraction
    exact ⟨by simp, forall_mem_of_all (by decide)⟩
  · have hdigits :
        NumberParts.digits ⟨ds ++ List.replicate k.toNat '0',
          some ['0'], none⟩ =
        d * 10 ^ k.toNat * 10 ^ 1 := by
      rw [← hds.value, ← Numeral.digitsValue_append_zeros,
        ← Numeral.digitsValue_append_zeros]
      rfl
    have hpow : (10 : ℚ) ^ k.toNat = 10 ^ k := by
      rw [← zpow_natCast, Int.toNat_of_nonneg hk]
    rw [hdigits, Nat.cast_mul, Nat.cast_mul, Nat.cast_pow, Nat.cast_pow,
      Nat.cast_ofNat, hpow, mul_assoc]
    norm_num [NumberParts.exponent]

/-- A point between the digits. -/
theorem spells_inside (hds : DigitsOf ds d) (hk : k < 0)
    (hplaces : (-k).toNat < ds.length) :
    NumberParts.Spells
      ⟨ds.take (ds.length - (-k).toNat),
      some (ds.drop (ds.length - (-k).toNat)), none⟩ d k := by
  have hsplit := List.take_append_drop (ds.length - (-k).toNat) ds
  have hexponent : NumberParts.exponent ⟨ds.take (ds.length - (-k).toNat),
      some (ds.drop (ds.length - (-k).toNat)), none⟩ = k := by
    simp only [NumberParts.exponent, Option.getD_none, Option.getD_some,
      List.length_drop]
    omega
  refine ⟨⟨?_, ?_⟩, Or.inl (by simp), ?_⟩
  · have htake : ds.take (ds.length - (-k).toNat) ≠ [] := by
      rw [← List.length_pos_iff, List.length_take]
      omega
    refine ⟨htake, fun c hc => hds.isDigit c (List.mem_of_mem_take hc), ?_⟩
    intro hzero
    rw [List.head?_take, if_neg (by omega)] at hzero
    exact absurd hzero hds.lead
  · intro fraction hfraction
    obtain rfl := Option.some.inj hfraction
    refine ⟨?_, fun c hc => hds.isDigit c (List.mem_of_mem_drop hc)⟩
    rw [← List.length_pos_iff, List.length_drop]
    omega
  · rw [hexponent, NumberParts.digits, Option.getD_some, hsplit, hds.value]

/-- Zeros between the point and the digits. -/
theorem spells_small (hds : DigitsOf ds d) (hk : k < 0)
    (hplaces : ds.length ≤ (-k).toNat) :
    NumberParts.Spells
      ⟨['0'], some (List.replicate ((-k).toNat - ds.length) '0' ++ ds), none⟩
      d k := by
  have hexponent : NumberParts.exponent ⟨['0'],
      some (List.replicate ((-k).toNat - ds.length) '0' ++ ds), none⟩ = k := by
    simp only [NumberParts.exponent, Option.getD_none, Option.getD_some,
      List.length_append, List.length_replicate]
    omega
  refine ⟨⟨wholeDigits_zero, ?_⟩, Or.inl (by simp), ?_⟩
  · intro fraction hfraction
    obtain rfl := Option.some.inj hfraction
    refine ⟨by simp [hds.ne_nil], ?_⟩
    intro c hc
    rcases List.mem_append.1 hc with hc | hc
    · exact isDigit_of_mem_zeros hc
    · exact hds.isDigit c hc
  · have hdigits : NumberParts.digits ⟨['0'],
        some (List.replicate ((-k).toNat - ds.length) '0' ++ ds), none⟩ =
          d := by
      rw [← hds.value,
        ← Numeral.digitsValue_zeros_append ((-k).toNat - ds.length + 1) ds,
        List.replicate_succ]
      rfl
    rw [hexponent, hdigits]

/-- One digit, the others after a point, and the exponent. -/
theorem spells_exponent (hds : DigitsOf ds d) (k : Int) :
    NumberParts.Spells
      ⟨ds.take 1, if (ds.drop 1).isEmpty then none else some (ds.drop 1),
      some (k + ds.length - 1)⟩ d k := by
  obtain ⟨c, cs, rfl⟩ := List.exists_cons_of_ne_nil hds.ne_nil
  have hlead := hds.lead
  have hcs : (if cs.isEmpty then none else some cs).getD [] = cs := by
    cases cs <;> rfl
  have hexponent :
      NumberParts.exponent ⟨[c], if cs.isEmpty then none else some cs,
      some (k + (c :: cs).length - 1)⟩ = k := by
    simp only [NumberParts.exponent, hcs, Option.getD_some, List.length_cons]
    omega
  change NumberParts.Spells ⟨[c], if cs.isEmpty then none else some cs,
    some (k + (c :: cs).length - 1)⟩ d k
  refine ⟨⟨?_, ?_⟩, Or.inr (by simp), ?_⟩
  · refine ⟨List.cons_ne_nil _ _, ?_, fun hzero => absurd hzero hlead⟩
    intro x hx
    obtain rfl := List.mem_singleton.1 hx
    exact hds.isDigit x List.mem_cons_self
  · intro fraction hfraction
    cases cs with
    | nil => simp at hfraction
    | cons b bs =>
        obtain rfl := Option.some.inj hfraction
        exact ⟨List.cons_ne_nil _ _, fun x hx =>
          hds.isDigit x (List.mem_cons_of_mem c hx)⟩
  · rw [hexponent, NumberParts.digits, hcs, ← hds.value]
    rfl

/-- Both layouts of a number in JSON text are numerals of its decimal. -/
theorem magnitudeText_spells {negative : Bool} {m : Nat} {e : Int}
    (hcanonical : (Double.finite negative m e).Canonical) (hm : 0 < m) :
    ∃ p : NumberParts, Double.magnitudeText .json m e = p.chars ∧
      p.Spells (Decimal.shortest false m e).digits
        (Decimal.shortest false m e).exponent := by
  have hpos := Decimal.shortest_digits_pos false hcanonical hm
  have hds := digitsOf_toDigits hpos
  unfold Double.magnitudeText
  rw [if_neg hm.ne']
  simp only [NumberLayout.json, Nat.toString_eq_repr, Nat.toList_repr]
  generalize Nat.toDigits 10 (Decimal.shortest false m e).digits = ds at hds
  generalize (Decimal.shortest false m e).digits = d at hds
  generalize (Decimal.shortest false m e).exponent = k
  split
  · unfold positionalText
    by_cases hk : 0 ≤ k
    · refine ⟨_, ?_, spells_whole hds hk⟩
      simp [hk, NumberParts.chars, NumberParts.fractionChars,
        NumberParts.powerChars]
    · by_cases hplaces : (-k).toNat < ds.length
      · refine ⟨_, ?_, spells_inside hds (by omega) hplaces⟩
        simp [hk, hplaces, NumberParts.chars, NumberParts.fractionChars,
          NumberParts.powerChars]
      · refine ⟨_, ?_, spells_small hds (by omega) (by omega)⟩
        simp [hk, hplaces, NumberParts.chars, NumberParts.fractionChars,
          NumberParts.powerChars]
  · refine ⟨_, ?_, spells_exponent hds k⟩
    unfold exponentText NumberParts.chars NumberParts.fractionChars
      NumberParts.powerChars powerChars
    cases ds.drop 1 <;> simp

end Layouts

theorem toJson?_of_isDecimal {p : NumberParts} {negative : Bool} {x : Double}
    (hdecimal : p.fraction? ≠ none ∨ p.power? ≠ none)
    (hx : Double.ofDecimal negative p.digits p.exponent = x)
    (hfinite : x.isFinite = true) :
    p.toJson? negative = some (number x) := by
  unfold NumberParts.toJson?
  split
  next hfraction hpower => exact absurd hdecimal (by simp [hfraction, hpower])
  next =>
      simp only [hx]
      rw [if_pos hfinite]

/-- Every finite number has a numeral that is its text and denotes it. -/
theorem magnitudeText_denotes {negative : Bool} {m : Nat} {e : Int}
    (hcanonical : (Double.finite negative m e).Canonical) :
    ∃ p : NumberParts, Double.magnitudeText .json m e = p.chars ∧ p.Valid ∧
      p.toJson? negative = some (number (.finite negative m e)) := by
  rcases Nat.eq_zero_or_pos m with rfl | hm
  · obtain ⟨-, -, -, hgrid⟩ := hcanonical
    obtain rfl : e = Double.minExponent := by
      rcases hgrid with hlead | heq
      · exact absurd hlead (by decide)
      · exact heq
    refine ⟨⟨['0'], some ['0'], none⟩, rfl, ⟨wholeDigits_zero, ?_⟩, ?_⟩
    · intro ds hds
      obtain rfl := Option.some.inj hds
      exact ⟨by decide, forall_mem_of_all (by decide)⟩
    · exact toJson?_of_isDecimal (Or.inl (by simp)) rfl rfl
  · obtain ⟨p, hchars, hp⟩ := magnitudeText_spells hcanonical hm
    have hcontains := Decimal.shortest_contains false hcanonical hm
    rw [← hp.value] at hcontains
    have hdecimal := Double.ofDecimal_of_contains hcanonical hm hcontains
    exact ⟨p, hchars, hp.toValid,
      toJson?_of_isDecimal hp.isDecimal hdecimal rfl⟩

/-- A finite number is read back from its text as the same number. -/
theorem readNumber?_double {x : Double} (hcanonical : x.Canonical)
    (hfinite : x.isFinite = true) {rest : List Char}
    (hrest : Stops continuesNumber rest) :
    readNumber? (numberText x ++ rest) = some (number x, rest) := by
  cases x with
  | nan => simp [Double.isFinite] at hfinite
  | infinite negative => simp [Double.isFinite] at hfinite
  | finite negative m e =>
      obtain ⟨p, hchars, hvalid, hdenotes⟩ := magnitudeText_denotes hcanonical
      have htext : numberText (.finite negative m e) =
          (if negative then ['-'] else []) ++ p.chars := by
        rw [numberText, if_pos hfinite, Double.text,
          String.toList_ofList, hchars]
      rw [htext, List.append_assoc, readNumber?_parts negative hvalid hrest,
        hdenotes]
      rfl

end Stencil.Json
