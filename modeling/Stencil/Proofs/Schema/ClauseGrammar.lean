/-
The grammar of clauses.  A text is cut into clauses and the gaps in front of
them.  No clause begins in a gap, so every clause stands at the first place
where one can, and the scanner finds just these.
-/
import Stencil.Proofs.Schema.ValueGrammar

namespace Stencil

open Text

/-- A clause as it stands in a text. -/
structure ClauseSpan where
  key : List Char
  beforeEquals : List Char
  afterEquals : List Char
  written : List Char
  value : ClauseValue

namespace ClauseSpan

def chars (s : ClauseSpan) : List Char :=
  s.key ++ (s.beforeEquals ++ '=' :: (s.afterEquals ++ s.written))

/-- The clause that stands there. -/
def clause (s : ClauseSpan) : Clause :=
  ⟨String.ofList s.key, s.value⟩

/-- The key is a word, white space stands around the equals sign, and the value
is of one of the forms. -/
structure Matches (s : ClauseSpan) : Prop where
  key_ne_nil : s.key ≠ []
  key_word : ∀ c ∈ s.key, isWord c = true
  before_blank : ∀ c ∈ s.beforeEquals, isBlank c = true
  after_blank : ∀ c ∈ s.afterEquals, isBlank c = true
  written_value : ∃ form : ValueForm, form.Writes s.written s.value

end ClauseSpan

namespace Clause

open ValueForm ClauseSpan

/-- A clause begins at the head of a text. -/
def Begins (text : List Char) : Prop :=
  ∃ s : ClauseSpan, s.Matches ∧ s.chars <+: text

/-- No clause begins in a gap in front of a text. -/
def Free (gap rest : List Char) : Prop :=
  ∀ before after, gap = before ++ after → after ≠ [] → ¬ Begins (after ++ rest)

/-- The clauses of a text, each with the gap in front of it.  The value of a
clause is the first one at its place. -/
inductive Reads : List (List Char × ClauseSpan) → List Char → Prop
  | tail {gap : List Char} : Free gap [] → Reads [] gap
  | clause {gap rest : List Char} {s : ClauseSpan}
      {found : List (List Char × ClauseSpan)} :
      Free gap (s.chars ++ rest) → s.Matches →
      IsFirst (s.written ++ rest) s.written s.value →
      Reads found rest → Reads ((gap, s) :: found) (gap ++ (s.chars ++ rest))

variable {cs rest : List Char} {s : ClauseSpan}

theorem stops_isWord_equals {before : List Char}
    (hbefore : ∀ c ∈ before, isBlank c = true) (rest : List Char) :
    Stops isWord (before ++ '=' :: rest) := by
  cases before with
  | nil => exact stops_cons.2 (by decide)
  | cons c cs => exact stops_cons.2 (isWord_eq_false_of_isBlank
      (hbefore c List.mem_cons_self))

theorem stops_isBlank_equals (rest : List Char) : Stops isBlank ('=' :: rest) :=
  stops_cons.2 (by decide)

/-- What is read after a key is an equals sign between white space, and the
first value at its place. -/
theorem exists_of_assignmentAt? {value : ClauseValue}
    (h : assignmentAt? cs = some (value, rest)) :
    ∃ before after written, cs = before ++ '=' :: (after ++ (written ++ rest)) ∧
      (∀ c ∈ before, isBlank c = true) ∧ (∀ c ∈ after, isBlank c = true) ∧
      IsFirst (written ++ rest) written value := by
  unfold assignmentAt? at h
  split at h
  next tail hequals =>
      obtain ⟨written, htail, hfirst⟩ := isFirst_of_valueAt? h
      rw [htail] at hfirst
      refine ⟨cs.takeWhile isBlank, tail.takeWhile isBlank, written, ?_,
        fun c hc => List.mem_takeWhile_imp hc, fun c hc =>
          List.mem_takeWhile_imp hc, hfirst⟩
      rw [← htail, List.takeWhile_append_dropWhile, ← hequals,
        List.takeWhile_append_dropWhile]
  next => contradiction

/-- An equals sign between white space and a value are read. -/
theorem isSome_assignmentAt? {before after written : List Char}
    {form : ValueForm} {value : ClauseValue}
    (hbefore : ∀ c ∈ before, isBlank c = true)
    (hafter : ∀ c ∈ after, isBlank c = true)
    (hwritten : form.Writes written value) (rest : List Char) :
    (assignmentAt? (before ++ '=' :: (after ++ (written ++ rest)))).isSome := by
  rw [assignmentAt?, dropWhile_run hbefore (stops_isBlank_equals _)]
  simp only
  rw [dropWhile_run hafter (hwritten.stops_isBlank rest)]
  exact isSome_valueAt? hwritten rest

/-- The key of a clause goes on to the end of its word. -/
theorem begins_cons_iff {c : Char} :
    Begins (c :: cs) ↔ isWord c = true ∧
      (assignmentAt? (cs.dropWhile isWord)).isSome := by
  constructor
  · rintro ⟨s, hs, rest, htext⟩
    obtain ⟨d, ds, hkey⟩ := List.exists_cons_of_ne_nil hs.key_ne_nil
    have hword := hs.key_word
    simp only [chars, hkey, List.cons_append, List.append_assoc,
      List.cons.injEq] at htext
    obtain ⟨rfl, rfl⟩ := htext
    rw [hkey, List.forall_mem_cons] at hword
    obtain ⟨form, hwritten⟩ := hs.written_value
    rw [dropWhile_run hword.2 (stops_isWord_equals hs.before_blank _)]
    exact ⟨hword.1,
      isSome_assignmentAt? hs.before_blank hs.after_blank hwritten rest⟩
  · rintro ⟨hc, hsome⟩
    obtain ⟨⟨value, rest⟩, h⟩ := Option.isSome_iff_exists.1 hsome
    obtain ⟨before, after, written, hdrop, hbefore, hafter, form,
      hwritten, -⟩ :=
      exists_of_assignmentAt? h
    refine ⟨⟨c :: cs.takeWhile isWord, before, after, written, value⟩,
      ⟨List.cons_ne_nil _ _, ?_, hbefore, hafter, form, hwritten⟩, rest, ?_⟩
    · rw [List.forall_mem_cons]
      exact ⟨hc, fun d hd => List.mem_takeWhile_imp hd⟩
    · simp only [chars, List.cons_append, List.append_assoc]
      rw [← hdrop, List.takeWhile_append_dropWhile]

theorem free_nil (rest : List Char) : Free [] rest := by
  intro before after hgap hafter
  simp_all

theorem Free.append {first second : List Char}
    (hfirst : Free first (second ++ rest)) (hsecond : Free second rest) :
    Free (first ++ second) rest := by
  intro before after hgap hafter
  rcases List.append_eq_append_iff.1 hgap with ⟨x, -, rfl⟩ | ⟨x, rfl, rfl⟩
  · exact hsecond x after rfl hafter
  · cases x with
    | nil => exact hsecond [] second rfl hafter
    | cons c x =>
        rw [List.append_assoc]
        exact hfirst before (c :: x) rfl (List.cons_ne_nil c x)

/-- A gap in front of a text belongs to the first gap of the text. -/
theorem Reads.skip {found : List (List Char × ClauseSpan)}
    {skipped text : List Char} (h : Reads found text)
    (hfree : Free skipped text) :
    ∃ more, Reads more (skipped ++ text) ∧
      more.map Prod.snd = found.map Prod.snd := by
  cases h with
  | tail hgap =>
      rw [← List.append_nil text] at hfree
      exact ⟨[], .tail (hfree.append hgap), rfl⟩
  | @clause gap rest s found hgap hs hfirst hrest =>
      refine ⟨(skipped ++ gap, s) :: found, ?_, rfl⟩
      rw [← List.append_assoc]
      exact .clause (hfree.append hgap) hs hfirst hrest

/-- A word that no assignment follows begins no clause, at none of its
characters. -/
theorem free_word {run : List Char} (hrun : ∀ c ∈ run, isWord c = true)
    (hrest : Stops isWord rest) (hnone : assignmentAt? rest = none) :
    Free run rest := by
  intro before after hgap hafter
  obtain ⟨c, cs, rfl⟩ := List.exists_cons_of_ne_nil hafter
  have hcs : ∀ d ∈ cs, isWord d = true := fun d hd =>
    hrun d (by simp [hgap, hd])
  rw [List.cons_append, begins_cons_iff, dropWhile_run hcs hrest, hnone]
  simp

theorem free_of_not_word {c : Char} (hc : isWord c = false) :
    Free [c] rest := by
  intro before after hgap hafter
  cases before with
  | nil =>
      rw [List.nil_append] at hgap
      rw [← hgap, List.singleton_append, begins_cons_iff, hc]
      simp
  | cons d before =>
      rw [List.cons_append, List.cons.injEq] at hgap
      exact absurd (List.append_eq_nil_iff.1 hgap.2.symm).2 hafter

/-- The scanner reads the clauses of a text. -/
theorem exists_reads_scan (text : List Char) :
    ∃ found, Reads found text ∧
      scan text = (found.map Prod.snd).map ClauseSpan.clause := by
  fun_induction scan text with
  | case1 => exact ⟨[], .tail (free_nil []), rfl⟩
  | case2 c cs hc value rest h ih =>
      obtain ⟨found, hreads, hscan⟩ := ih
      obtain ⟨before, after, written, hdrop, hbefore, hafter, hfirst⟩ :=
        exists_of_assignmentAt? h
      have hform := hfirst
      obtain ⟨form, hwritten, -⟩ := hform
      let s : ClauseSpan :=
        ⟨c :: cs.takeWhile isWord, before, after, written, value⟩
      have hs : s.Matches := by
        refine ⟨List.cons_ne_nil _ _, ?_, hbefore, hafter, form, hwritten⟩
        rw [List.forall_mem_cons]
        exact ⟨hc, fun d hd => List.mem_takeWhile_imp hd⟩
      have htext : c :: cs = [] ++ (s.chars ++ rest) := by
        simp only [s, chars, List.nil_append, List.cons_append,
          List.append_assoc]
        rw [← hdrop, List.takeWhile_append_dropWhile]
      rw [htext]
      exact ⟨([], s) :: found,
        .clause (free_nil _) hs hfirst hreads, by simp [hscan, s, clause]⟩
  | case3 c cs hc h ih =>
      obtain ⟨found, hreads, hscan⟩ := ih
      have hrun : ∀ d ∈ c :: cs.takeWhile isWord, isWord d = true := by
        rw [List.forall_mem_cons]
        exact ⟨hc, fun d hd => List.mem_takeWhile_imp hd⟩
      obtain ⟨more, hmore, hsame⟩ :=
        hreads.skip (free_word hrun (stops_dropWhile isWord cs) h)
      rw [List.cons_append, List.takeWhile_append_dropWhile] at hmore
      exact ⟨more, hmore, by rw [hscan, hsame]⟩
  | case4 c cs hc ih =>
      obtain ⟨found, hreads, hscan⟩ := ih
      have hfree : Free [c] cs := free_of_not_word (Bool.not_eq_true _ ▸ hc)
      obtain ⟨more, hmore, hsame⟩ := hreads.skip hfree
      exact ⟨more, hmore, by rw [hscan, hsame]⟩

/-- What stands at the head of a text is determined by the text. -/
theorem span_unique {t : ClauseSpan} {more : List Char} (hs : s.Matches)
    (ht : t.Matches) (hfirst : IsFirst (s.written ++ rest) s.written s.value)
    (hfirst' : IsFirst (t.written ++ more) t.written t.value)
    (h : s.chars ++ rest = t.chars ++ more) : s = t ∧ rest = more := by
  obtain ⟨form, hwritten⟩ := hs.written_value
  obtain ⟨form', hwritten'⟩ := ht.written_value
  simp only [chars, List.append_assoc, List.cons_append] at h
  obtain ⟨hkey, h⟩ :=
    run_append_inj hs.key_word
      (stops_isWord_equals hs.before_blank _) ht.key_word
      (stops_isWord_equals ht.before_blank _) h
  obtain ⟨hbefore, h⟩ :=
    run_append_inj hs.before_blank (stops_isBlank_equals _) ht.before_blank
      (stops_isBlank_equals _) h
  obtain ⟨hafter, h⟩ :=
    run_append_inj hs.after_blank (hwritten.stops_isBlank rest) ht.after_blank
      (hwritten'.stops_isBlank more) (List.cons.inj h).2
  rw [← h] at hfirst'
  obtain ⟨hsame, hvalue⟩ := hfirst.unique hfirst'
  rw [hsame, List.append_right_inj] at h
  obtain ⟨⟩ := s
  obtain ⟨⟩ := t
  simp_all

/-- Two gaps in front of a clause in one text are the same. -/
theorem gap_unique {gap gap' : List Char} {t : ClauseSpan} {more : List Char}
    (hs : s.Matches) (ht : t.Matches) (hfree : Free gap (s.chars ++ rest))
    (hfree' : Free gap' (t.chars ++ more))
    (h : gap ++ (s.chars ++ rest) = gap' ++ (t.chars ++ more)) :
    gap = gap' := by
  rcases List.append_eq_append_iff.1 h with ⟨x, rfl, hx⟩ | ⟨x, rfl, hx⟩
  · cases x with
    | nil => rw [List.append_nil]
    | cons c x =>
        have hbegins : Begins (c :: x ++ (t.chars ++ more)) :=
          ⟨s, hs, hx ▸ List.prefix_append _ _⟩
        exact absurd hbegins (hfree' gap (c :: x) rfl (List.cons_ne_nil c x))
  · cases x with
    | nil => rw [List.append_nil]
    | cons c x =>
        have hbegins : Begins (c :: x ++ (s.chars ++ rest)) :=
          ⟨t, ht, hx ▸ List.prefix_append _ _⟩
        exact absurd hbegins (hfree gap' (c :: x) rfl (List.cons_ne_nil c x))

/-- A text without a clause is not one with a clause. -/
theorem not_free_clause {gap : List Char} (hs : s.Matches) :
    ¬ Free (gap ++ (s.chars ++ rest)) [] := by
  intro hfree
  refine hfree gap (s.chars ++ rest) rfl ?_ ⟨s, hs, ?_⟩
  · simp [chars]
  · rw [List.append_nil]
    exact List.prefix_append _ _

/-- A text is read in one way only. -/
theorem Reads.unique {found other : List (List Char × ClauseSpan)}
    {text : List Char} (h : Reads found text) (hother : Reads other text) :
    found = other := by
  induction h generalizing other with
  | tail hgap =>
      cases hother with
      | tail => rfl
      | clause _ hs => exact absurd hgap (not_free_clause hs)
  | @clause gap rest s found hgap hs hfirst hreads ih =>
      generalize htext : gap ++ (s.chars ++ rest) = text at hother
      cases hother with
      | tail hgap' => exact absurd (htext ▸ hgap') (not_free_clause hs)
      | @clause gap' more t _ hgap' ht hfirst' hmore =>
          obtain rfl := gap_unique hs ht hgap hgap' htext
          obtain ⟨rfl, rfl⟩ :=
            span_unique hs ht hfirst hfirst' (List.append_cancel_left htext)
          rw [ih hmore]

/-- Word characters in front of a clause extend its key. -/
theorem Begins.extend {run text : List Char} (hrun : ∀ c ∈ run, isWord c = true)
    (h : Begins text) : Begins (run ++ text) := by
  obtain ⟨s, hs, rest, rfl⟩ := h
  refine ⟨{ s with key := run ++ s.key },
    { hs with key_ne_nil := ?_, key_word := ?_ }, rest, ?_⟩
  · exact List.append_ne_nil_of_right_ne_nil run hs.key_ne_nil
  · exact List.forall_mem_append.2 ⟨hrun, hs.key_word⟩
  · simp [chars]

/-- A key goes back as far as it can: the gap in front of it does not end in a
word character. -/
theorem Reads.stops_gap {found : List (List Char × ClauseSpan)}
    {text : List Char} (h : Reads found text) :
    ∀ entry ∈ found, Stops isWord entry.1.reverse := by
  induction h with
  | tail => simp
  | @clause gap rest s found hgap hs hfirst hreads ih =>
      rw [List.forall_mem_cons]
      refine ⟨fun c hc => Bool.not_eq_true _ ▸ fun hword => ?_, ih⟩
      obtain ⟨before, hreverse⟩ := List.head?_eq_some_iff.1 hc
      have hsplit : gap = before.reverse ++ [c] := by
        rw [← List.reverse_reverse gap, hreverse, List.reverse_cons]
      apply hgap before.reverse [c] hsplit (List.cons_ne_nil c [])
      apply Begins.extend (by simpa using hword)
      exact ⟨s, hs, List.prefix_append s.chars rest⟩

/-- The value of every clause is the first one at its place. -/
theorem Reads.isFirst {found : List (List Char × ClauseSpan)} {text : List Char}
    (h : Reads found text) :
    ∀ entry ∈ found, ∃ rest,
      IsFirst (entry.2.written ++ rest) entry.2.written entry.2.value := by
  induction h with
  | tail => simp
  | @clause gap rest s found hgap hs hfirst hreads ih =>
      rw [List.forall_mem_cons]
      exact ⟨⟨rest, hfirst⟩, ih⟩

/-- A configuration text is read by the grammar, in just one way, and the
clauses are those that stand in it.  A key goes back to the start of its word or
to the end of the clause before it, and a bare word does not begin with a
digit.  What stands inside a value belongs to its clause and begins no other. -/
theorem ofConfig_reads_grammar (config : String) :
    ∃ found, Reads found config.toList ∧
      (∀ other, Reads other config.toList → other = found) ∧
      ofConfig config = found.map (fun entry => entry.2.clause) ∧
      (∀ entry ∈ found, Stops isWord entry.1.reverse) ∧
      ∀ entry ∈ found, ∀ word, entry.2.value = .bareword word →
        Stops isDecimal word.toList := by
  obtain ⟨found, hreads, hscan⟩ := exists_reads_scan config.toList
  refine ⟨found, hreads, fun other hother => hother.unique hreads, ?_,
    hreads.stops_gap, ?_⟩
  · rw [ofConfig, hscan, List.map_map]
    rfl
  · intro entry hentry word hword
    obtain ⟨rest, hfirst⟩ := hreads.isFirst entry hentry
    rw [hword] at hfirst
    exact hfirst.stops_isDecimal

example : ofConfig "n = 3rd=[x=1], q='y" =
    [⟨"n", .number "3"⟩, ⟨"rd", .list "x=1"⟩] := by
  decide +kernel

end Clause

end Stencil
