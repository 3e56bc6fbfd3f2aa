/-
String literals read back.  Every character is written as one escape, or as
itself, and reading takes one step for it.
-/
import Stencil.Json.Reader
import Stencil.Json.Writer

namespace Stencil.Json

theorem hexDigit?_hexChar {n : Nat} (hn : n < 16) :
    Numeral.hexDigit? (hexChar n) = some n := by
  have hall : ∀ k < 16, Numeral.hexDigit? (hexChar k) = some k := by decide
  exact hall n hn

/-- A control character is written as a unit of four digits. -/
theorem readEscapedChar?_control {c : Char} (hc : c.toNat < 32)
    (rest : List Char) :
    readEscapedChar?
      ('0' :: '0' :: hexChar (c.toNat / 16) :: hexChar (c.toNat % 16) :: rest) =
      some (c, rest) := by
  have hhigh := hexDigit?_hexChar (n := c.toNat / 16) (by omega)
  have hlow := hexDigit?_hexChar (n := c.toNat % 16) (by omega)
  have hzero : Numeral.hexDigit? '0' = some 0 := by decide
  have hunit : ((0 * 16 + 0) * 16 + c.toNat / 16) * 16 + c.toNat % 16 =
      c.toNat := by omega
  unfold readEscapedChar? readUnit?
  simp only [hzero, hhigh, hlow, Option.bind_eq_bind, Option.bind_some, hunit]
  rw [if_neg (by omega), if_neg (by omega), Char.ofNat_toNat]

/-- The three ways to write a character: a short escape, a unit, or itself. -/
theorem escapeChar_cases (c : Char) :
    (∃ e, e ≠ 'u' ∧ shortEscape? e = some c ∧ escapeChar c = ['\\', e]) ∨
    (c.toNat < 32 ∧
      escapeChar c =
        ['\\', 'u', '0', '0', hexChar (c.toNat / 16), hexChar (c.toNat % 16)]) ∨
    (c ≠ '"' ∧ c ≠ '\\' ∧ ¬ c.toNat < 32 ∧ escapeChar c = [c]) := by
  by_cases hshort : c ∈ ['"', '\\', '\x08', '\x0C', '\n', '\r', '\t']
  · simp only [List.mem_cons, List.not_mem_nil, or_false] at hshort
    rcases hshort with rfl | rfl | rfl | rfl | rfl | rfl | rfl
    all_goals exact Or.inl ⟨_, by decide, rfl, rfl⟩
  · simp only [List.mem_cons, List.not_mem_nil, or_false, not_or] at hshort
    obtain ⟨hquote, hslash, hback, hfeed, hline, hreturn, htab⟩ := hshort
    right
    unfold escapeChar
    rw [if_neg hquote, if_neg hslash, if_neg hback, if_neg hfeed, if_neg hline,
      if_neg hreturn, if_neg htab]
    by_cases hcontrol : c.toNat < 32
    · exact Or.inl ⟨hcontrol, if_pos hcontrol⟩
    · exact Or.inr ⟨hquote, hslash, hcontrol, if_neg hcontrol⟩

/-- Reading takes one step for each character written. -/
theorem readStringBody?_escapeChar (c : Char) (fuel : Nat) (rest : List Char) :
    readStringBody? (fuel + 1) (escapeChar c ++ rest) =
      (readStringBody? fuel rest).map fun read => (c :: read.1, read.2) := by
  rw [readStringBody?.eq_def]
  rcases escapeChar_cases c with
    ⟨e, he, hshort, hwritten⟩ | ⟨hcontrol, hwritten⟩ |
    ⟨hquote, hslash, hplain, hwritten⟩
  · simp only [hwritten, List.cons_append, List.nil_append, Char.reduceEq,
      if_false, if_true, hshort, Option.bind_eq_bind, Option.bind_some]
    cases readStringBody? fuel rest <;> rfl
  · simp only [hwritten, List.cons_append, List.nil_append, Char.reduceEq,
      if_false, if_true, readEscapedChar?_control hcontrol, Option.bind_eq_bind,
      Option.bind_some]
    cases readStringBody? fuel rest <;> rfl
  · simp only [hwritten, List.singleton_append, if_neg hquote, if_neg hslash,
      if_neg hplain]
    cases readStringBody? fuel rest <;> rfl

theorem readStringBody?_escaped {cs : List Char} {fuel : Nat}
    (hfuel : cs.length < fuel) (rest : List Char) :
    readStringBody? fuel (cs.flatMap escapeChar ++ '"' :: rest) =
      some (cs, rest) := by
  induction cs generalizing fuel with
  | nil =>
      obtain ⟨fuel, rfl⟩ : ∃ n, fuel = n + 1 :=
        ⟨fuel - 1, by simp at hfuel; omega⟩
      rfl
  | cons c cs ih =>
      obtain ⟨fuel, rfl⟩ : ∃ n, fuel = n + 1 := ⟨fuel - 1, by omega⟩
      rw [List.flatMap_cons, List.append_assoc, readStringBody?_escapeChar,
        ih (by simpa using hfuel)]
      rfl

theorem escapeChar_ne_nil (c : Char) : escapeChar c ≠ [] := by
  rcases escapeChar_cases c with ⟨e, -, -, hwritten⟩ | ⟨-, hwritten⟩ |
    ⟨-, -, -, hwritten⟩
  all_goals
    rw [hwritten]
    exact List.cons_ne_nil _ _

theorem length_le_length_escaped (cs : List Char) :
    cs.length ≤ (cs.flatMap escapeChar).length := by
  induction cs with
  | nil => exact Nat.le_refl 0
  | cons c cs ih =>
      have hpos : 0 < (escapeChar c).length :=
        List.length_pos_iff.2 (escapeChar_ne_nil c)
      rw [List.flatMap_cons, List.length_append, List.length_cons]
      omega

/-- After its opening quote a literal reads back, whatever follows it. -/
theorem readString?_escaped (s : String) (rest : List Char) :
    readString? (s.toList.flatMap escapeChar ++ '"' :: rest) =
      some (s, rest) := by
  have hlength := length_le_length_escaped s.toList
  have hfuel : s.toList.length <
      (s.toList.flatMap escapeChar ++ '"' :: rest).length + 1 := by
    rw [List.length_append]
    omega
  rw [readString?, readStringBody?_escaped hfuel]
  simp only [Option.bind_eq_bind, Option.bind_some, String.ofList_toList]

end Stencil.Json
