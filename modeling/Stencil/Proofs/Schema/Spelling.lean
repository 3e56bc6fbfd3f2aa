/-
The written form of a declaration.  A spelling names every piece that the
syntax leaves open, so it says without a scanner what stands at a place of a
template; the reader accepts exactly the spellings.
-/
import Stencil.Proofs.Text.Runs
import Stencil.Schema.Declaration

namespace Stencil

open Text Declaration

/-- The open pieces of a written declaration: the white space on both sides of
the keyword, the name, and the text between the colon and the end. -/
structure Spelling where
  gap : List Char
  space : List Char
  name : List Char
  body : List Char
  gap_blank : ∀ c ∈ gap, isBlank c = true
  space_blank : ∀ c ∈ space, isBlank c = true
  space_ne_nil : space ≠ []
  name_word : ∀ c ∈ name, isWord c = true
  name_ne_nil : name ≠ []
  body_plain : '-' ∉ body
  body_ne_nil : body ≠ []

namespace Spelling

/-- What stands between the opening and the closing. -/
def inner (s : Spelling) : List Char :=
  s.gap ++ (keyword ++ (s.space ++ (s.name ++ ':' :: s.body)))

/-- The whole declaration. -/
def chars (s : Spelling) : List Char :=
  opening ++ (s.inner ++ closing)

/-- The text of the clauses: the body without its leading white space, or the
last character of a blank body. -/
def config (s : Spelling) : List Char :=
  if s.body.all isBlank then [s.body.getLast s.body_ne_nil]
    else s.body.dropWhile isBlank

/-- The declaration that is written. -/
def declaration (s : Spelling) : Declaration :=
  ⟨String.ofList s.name, String.ofList s.config⟩

variable (s : Spelling) (rest : List Char)

theorem chars_length : s.chars.length = s.inner.length + 6 := by
  simp [chars, opening, closing]

theorem configOf_body : configOf s.body = s.config := by
  rw [configOf, config]
  cases hrest : s.body.dropWhile isBlank with
  | nil =>
      have hall : s.body.all isBlank = true := by
        simpa [List.dropWhile_eq_nil_iff] using hrest
      rw [if_pos hall]
      calc s.body.drop (s.body.length - 1)
        _ = (s.body.dropLast ++ [s.body.getLast s.body_ne_nil]).drop
            s.body.dropLast.length := by
            rw [List.dropLast_concat_getLast, List.length_dropLast]
        _ = [s.body.getLast s.body_ne_nil] := List.drop_left
  | cons c cs =>
      have hall : ¬ s.body.all isBlank = true := by
        intro hall
        rw [List.dropWhile_eq_nil_iff.2 (List.all_eq_true.1 hall)] at hrest
        contradiction
      rw [if_neg hall]

theorem stops_keyword (cs : List Char) : Stops isBlank (keyword ++ cs) :=
  stops_cons.2 (by decide)

theorem stops_name (cs : List Char) : Stops isBlank (s.name ++ cs) := by
  intro c hc
  cases hname : s.name with
  | nil => exact absurd hname s.name_ne_nil
  | cons d ds =>
      rw [hname, List.cons_append, List.head?_cons, Option.mem_some_iff] at hc
      subst hc
      exact isBlank_eq_false_of_isWord (s.name_word d (by simp [hname]))

theorem stops_colon (cs : List Char) : Stops isWord (':' :: cs) :=
  stops_cons.2 (by decide)

theorem body_all_plain : ∀ c ∈ s.body, decide (c ≠ '-') = true := by
  intro c hc
  exact decide_eq_true (ne_of_mem_of_not_mem hc s.body_plain)

/-- A written declaration is read back, whatever follows it. -/
theorem at?_chars : at? (s.chars ++ rest) = some (s.declaration, rest) := by
  have hclosing : Stops (fun c => decide (c ≠ '-')) (closing ++ rest) :=
    stops_cons.2 (by decide)
  have hspace : s.space.isEmpty = false := by simpa using s.space_ne_nil
  have hname : s.name.isEmpty = false := by simpa using s.name_ne_nil
  have hbody : s.body.isEmpty = false := by simpa using s.body_ne_nil
  have htext : s.chars ++ rest =
      opening ++ (s.gap ++ (keyword ++ (s.space ++ (s.name ++
      ':' :: (s.body ++ (closing ++ rest)))))) := by
    simp [chars, inner]
  rw [htext, at?]
  simp only [isPrefixOf?_append, Option.bind_eq_bind, Option.bind_some,
    dropWhile_run s.gap_blank (stops_keyword _),
    dropWhile_run s.space_blank (s.stops_name _),
    takeWhile_run s.space_blank (s.stops_name _),
    takeWhile_run s.name_word (stops_colon _),
    dropWhile_run s.name_word (stops_colon _), List.drop_succ_cons,
    List.drop_zero, takeWhile_run s.body_all_plain hclosing,
    dropWhile_run s.body_all_plain hclosing, hspace, hname, hbody,
    configOf_body]
  rfl

/-- Only written declarations are read. -/
theorem exists_of_at? {cs rest : List Char} {d : Declaration}
    (h : at? cs = some (d, rest)) :
    ∃ s : Spelling, cs = s.chars ++ rest ∧ d = s.declaration := by
  simp only [at?, Option.bind_eq_bind, Option.bind_eq_some_iff] at h
  obtain ⟨a, ha, b, hb, c, hc, h⟩ := h
  split at h
  · contradiction
  next hpieces =>
    simp only [Option.some.injEq, Prod.mk.injEq] at h
    obtain ⟨hd, rfl⟩ := h
    simp only [Bool.or_eq_true, not_or, List.isEmpty_iff, bne_iff_ne, ne_eq,
      not_not] at hpieces
    obtain ⟨⟨⟨hspace, hname⟩, hbody⟩, hcolon⟩ := hpieces
    obtain ⟨tail, htail⟩ := List.head?_eq_some_iff.1 hcolon
    rw [htail, List.drop_succ_cons, List.drop_zero] at hbody hc hd
    let s : Spelling := {
      gap := a.takeWhile isBlank
      space := b.takeWhile isBlank
      name := (b.dropWhile isBlank).takeWhile isWord
      body := tail.takeWhile (· ≠ '-')
      gap_blank := fun _ => List.mem_takeWhile_imp
      space_blank := fun _ => List.mem_takeWhile_imp
      space_ne_nil := hspace
      name_word := fun _ => List.mem_takeWhile_imp
      name_ne_nil := hname
      body_plain := fun hmem => by simpa using List.mem_takeWhile_imp hmem
      body_ne_nil := hbody }
    refine ⟨s, ?_, ?_⟩
    · calc cs = opening ++ a :=
          (List.isPrefixOf?_eq_some_iff_append_eq.1 ha).symm
        _ = opening ++ (s.gap ++ (keyword ++ b)) := by
            rw [List.isPrefixOf?_eq_some_iff_append_eq.1 hb,
              List.takeWhile_append_dropWhile]
        _ = opening ++
            (s.gap ++ (keyword ++ (s.space ++ (s.name ++ ':' :: tail)))) := by
            rw [← htail, List.takeWhile_append_dropWhile,
              List.takeWhile_append_dropWhile]
        _ = opening ++ (s.gap ++ (keyword ++ (s.space ++ (s.name ++
              ':' :: (s.body ++ (closing ++ c)))))) := by
            rw [List.isPrefixOf?_eq_some_iff_append_eq.1 hc,
              List.takeWhile_append_dropWhile]
        _ = s.chars ++ c := by simp [chars, inner]
    · rw [← hd, declaration, ← configOf_body]

end Spelling

end Stencil
