/-
The end of an unquoted value.  A bare word goes on to the end of its word and a
number as far as its digits and places do.  Word characters that a number leaves
over are the key of the next clause, or else they are skipped.
-/
import Stencil.Proofs.Schema.ClauseGrammar
import Stencil.Schema.Declaration

namespace Stencil

open Text

namespace ValueForm

variable {p : Char → Bool} {written rest : List Char} {value : ClauseValue}

/-- A value stops where a further character would still be in its form. -/
theorem IsFirst.stops (h : IsFirst (written ++ rest) written value)
    (hmore : ∀ form : ValueForm, form.Writes written value → ∀ c, p c = true →
      ∃ value', form.Writes (written ++ [c]) value') : Stops p rest := by
  obtain ⟨form, hwrites, -, hfirst⟩ := h
  intro c hc
  obtain ⟨more, rfl⟩ := List.head?_eq_some_iff.1 hc
  refine Bool.not_eq_true _ ▸ fun hp => ?_
  obtain ⟨value', hwrites'⟩ := hmore form hwrites c hp
  have hhead : written ++ [c] <+: written ++ c :: more :=
    ⟨more, List.append_assoc written [c] more⟩
  have hlength := (hfirst form _ value' hwrites' hhead).2 rfl
  rw [List.length_append, List.length_singleton] at hlength
  omega

/-- A bare word ends with its run of word characters. -/
theorem IsFirst.bareword {word : String}
    (h : IsFirst (written ++ rest) written (.bareword word)) :
    written = word.toList ∧ Stops isWord rest := by
  constructor
  · obtain ⟨form, hwrites, -⟩ := h
    obtain rfl := hwrites.eq_word
    rw [ClauseValue.bareword.inj hwrites.2, String.toList_ofList]
  · apply h.stops
    intro form hwrites c hc
    obtain rfl := hwrites.eq_word
    refine ⟨_, ⟨by simp, ?_⟩, rfl⟩
    rw [List.forall_mem_append]
    exact ⟨hwrites.1.2, by simpa using hc⟩

theorem IsNumeral.append_digit {c : Char} (h : IsNumeral written)
    (hc : isDecimal c = true) :
    IsNumeral (written ++ [c]) := by
  obtain ⟨whole, places, rfl, hne, hwhole, rfl | ⟨digits, rfl, hdigits⟩⟩ := h
  · refine ⟨whole ++ [c], [], by simp, by simp, ?_, Or.inl rfl⟩
    rw [List.forall_mem_append]
    exact ⟨hwhole, by simpa using hc⟩
  · refine ⟨whole, _, List.append_assoc _ _ _, hne, hwhole,
      Or.inr ⟨digits ++ [c], rfl, by simp, ?_⟩⟩
    rw [List.forall_mem_append]
    exact ⟨hdigits.2, by simpa using hc⟩

/-- A numeral in front of a text with which no longer one begins. -/
structure EndsNumeral (written rest : List Char) : Prop where
  isNumeral : IsNumeral written
  longest : ∀ longer, IsNumeral longer → longer <+: written ++ rest →
    longer.length ≤ written.length
  stops : Stops isDecimal rest

theorem IsFirst.number {number : String}
    (h : IsFirst (written ++ rest) written (.number number)) :
    written = number.toList ∧ EndsNumeral written rest := by
  have hstops : Stops isDecimal rest := by
    apply h.stops
    intro form hwrites c hc
    obtain rfl := hwrites.eq_numeral
    exact ⟨_, hwrites.1.append_digit hc, rfl⟩
  obtain ⟨form, hwrites, -, hfirst⟩ := h
  obtain rfl := hwrites.eq_numeral
  refine ⟨?_, hwrites.1, ?_, hstops⟩
  · rw [ClauseValue.number.inj hwrites.2, String.toList_ofList]
  · intro longer hlonger hhead
    exact (hfirst .numeral longer _ ⟨hlonger, rfl⟩ hhead).2 rfl

end ValueForm

namespace Clause

open ValueForm

variable {text : List Char} {before after found : List (List Char × ClauseSpan)}
  {entry : List Char × ClauseSpan}

/-- The text up to the end of some clauses. -/
def covered (found : List (List Char × ClauseSpan)) : List Char :=
  found.flatMap fun entry => entry.1 ++ entry.2.chars

/-- Behind some of the clauses stands a text with the others. -/
theorem Reads.split (h : Reads (before ++ after) text) :
    ∃ rest, text = covered before ++ rest ∧ Reads after rest := by
  induction before generalizing text with
  | nil => exact ⟨text, rfl, h⟩
  | cons entry before ih =>
      cases h with
      | clause hgap hs hfirst hreads =>
          obtain ⟨rest, rfl, hrest⟩ := ih hreads
          refine ⟨rest, ?_, hrest⟩
          simp [covered]

/-- The value of a clause is the first one in front of the text behind it. -/
theorem Reads.behind (h : Reads (before ++ entry :: after) text) :
    ∃ rest, text = covered (before ++ [entry]) ++ rest ∧ Reads after rest ∧
      IsFirst (entry.2.written ++ rest) entry.2.written entry.2.value := by
  obtain ⟨front, rfl, hreads⟩ := h.split
  cases hreads with
  | clause hgap hs hfirst hrest =>
      refine ⟨_, ?_, hrest, hfirst⟩
      simp [covered]

/-- A clause at the head of a text has the word there as its key. -/
theorem Reads.key_of_begins (h : Reads found text) (hbegins : Begins text) :
    ∃ s later, found = ([], s) :: later ∧ s.key = text.takeWhile isWord := by
  have hne : text ≠ [] := by
    rintro rfl
    obtain ⟨s, hs, hhead⟩ := hbegins
    exact absurd (List.prefix_nil.1 hhead) (by simp [ClauseSpan.chars])
  cases h with
  | tail hfree =>
      rw [← List.append_nil text] at hbegins
      exact absurd hbegins (hfree [] text rfl hne)
  | @clause gap rest s later hfree hs hfirst hrest =>
      cases gap with
      | nil =>
          refine ⟨s, later, rfl, ?_⟩
          simp only [ClauseSpan.chars, List.nil_append, List.append_assoc,
            List.cons_append]
          rw [takeWhile_run hs.key_word (stops_isWord_equals hs.before_blank _)]
      | cons c gap => exact absurd hbegins (hfree [] (c :: gap) rfl
          (List.cons_ne_nil c gap))

/-- A word at the head of a text that is no key is skipped as a whole. -/
theorem Reads.skips_word (h : Reads found text) (hnot : ¬ Begins text) :
    ∀ next ∈ found.head?, text.takeWhile isWord <+: next.1 := by
  cases h with
  | tail => simp
  | @clause gap rest s later hfree hs hfirst hrest =>
      intro next hnext
      obtain rfl : (gap, s) = next := by simpa using hnext
      have hgap : gap <+: gap ++ (s.chars ++ rest) := List.prefix_append gap _
      rcases List.prefix_or_prefix_of_prefix hgap
        (List.takeWhile_prefix isWord) with hshort | hlong
      · -- were the gap within the word, the clause behind it would begin with
        -- the word
        have hword : ∀ c ∈ gap, isWord c = true := fun c hc =>
          List.mem_takeWhile_imp (hshort.mem hc)
        have hbegins : Begins (s.chars ++ rest) :=
          ⟨s, hs, List.prefix_append s.chars rest⟩
        exact absurd (hbegins.extend hword) hnot
      · exact hlong

/-- A text is cut into clauses in just one way.  A bare word goes on to the end
of its run of word characters.  A number is the longest numeral that stands at
its place and a digit does not follow it.  The word that follows a value, which
only a number can cut off, is the key of the next clause if one begins there,
and belongs to the gap in front of the next clause if not. -/
theorem ofConfig_unquoted_ends (config : String) :
    ∃ found, Reads found config.toList ∧
      (∀ other, Reads other config.toList → other = found) ∧
      ofConfig config = found.map (fun entry => entry.2.clause) ∧
      ∀ before entry after, found = before ++ entry :: after →
        ∃ rest, config.toList = covered (before ++ [entry]) ++ rest ∧
          (∀ word, entry.2.value = .bareword word →
            entry.2.written = word.toList ∧ Stops isWord rest) ∧
          (∀ number, entry.2.value = .number number →
            entry.2.written = number.toList ∧
              EndsNumeral entry.2.written rest) ∧
          (Begins rest → ∃ s later, after = ([], s) :: later ∧
            s.key = rest.takeWhile isWord) ∧
          (¬ Begins rest → ∀ next ∈ after.head?,
            rest.takeWhile isWord <+: next.1) := by
  obtain ⟨found, hreads, hscan⟩ := exists_reads_scan config.toList
  refine ⟨found, hreads, fun other hother => hother.unique hreads, ?_, ?_⟩
  · rw [ofConfig, hscan, List.map_map]
    rfl
  · intro before entry after hfound
    rw [hfound] at hreads
    obtain ⟨rest, htext, hrest, hfirst⟩ := hreads.behind
    refine ⟨rest, htext, ?_, ?_, hrest.key_of_begins, hrest.skips_word⟩
    · intro word hword
      rw [hword] at hfirst
      exact hfirst.bareword
    · intro number hnumber
      rw [hnumber] at hfirst
      exact hfirst.number

/-- The character behind an unquoted value is never a word character. -/
def NeverCut (config : String) : Prop :=
  ∀ found, Reads found config.toList → ∀ before entry after,
    found = before ++ entry :: after →
    (∀ inner, entry.2.value ≠ .quoted inner ∧ entry.2.value ≠ .list inner) →
      ∀ rest, config.toList = covered (before ++ [entry]) ++ rest →
        Stops isWord rest

/-- An ordinal is cut behind its digits, and these are the default that is
declared. -/
theorem not_neverCut_ordinal :
    ¬ NeverCut "default=3rd" ∧
      (Declaration.toVariable ⟨"place", "default=3rd"⟩).default = some "3" := by
  refine ⟨?_, by decide +kernel⟩
  intro hnever
  let s : ClauseSpan :=
    ⟨['d', 'e', 'f', 'a', 'u', 'l', 't'], [], [], ['3'],
      .number (String.ofList ['3'])⟩
  have hfirst : IsFirst ['3', 'r', 'd'] ['3']
      (.number (String.ofList ['3'])) := by
    apply isFirst_number _ (by decide)
    intro e
    cases e <;> decide
  have hs : s.Matches := by
    refine ⟨List.cons_ne_nil _ _, forall_mem_of_all (by decide),
      List.forall_mem_nil _, List.forall_mem_nil _, ?_⟩
    obtain ⟨form, hwrites, -⟩ := hfirst
    exact ⟨form, hwrites⟩
  have htail : Reads [] ['r', 'd'] := by
    apply Reads.tail
    exact free_word (forall_mem_of_all (by decide)) (stops_nil isWord) rfl
  have hreads : Reads [([], s)] "default=3rd".toList :=
    .clause (free_nil _) hs hfirst htail
  have hstops := hnever _ hreads [] ([], s) [] rfl (fun inner => ⟨nofun, nofun⟩)
    ['r', 'd'] rfl
  exact absurd hstops (by decide)

end Clause

end Stencil
