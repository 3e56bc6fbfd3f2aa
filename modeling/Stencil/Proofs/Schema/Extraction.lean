/-
Extraction finds every declaration of a template, each once.  A hyphen stands
in a declaration only at its two ends, so a place inside a declaration begins
no other one, and skipping what was found loses nothing.
-/
import Stencil.Proofs.Schema.Spelling

namespace Stencil

open Text Declaration

namespace Spelling

/-- A declaration stands at a position of a text. -/
def StandsAt (s : Spelling) (start : Nat) (text : List Char) : Prop :=
  ∃ before after, text = before ++ (s.chars ++ after) ∧ before.length = start

theorem hyphen_not_mem_inner (s : Spelling) : '-' ∉ s.inner := by
  have hgap : '-' ∉ s.gap := fun h => absurd (s.gap_blank _ h) (by decide)
  have hspace : '-' ∉ s.space := fun h => absurd (s.space_blank _ h) (by decide)
  have hname : '-' ∉ s.name := fun h => absurd (s.name_word _ h) (by decide)
  have hkeyword : '-' ∉ keyword := by decide
  simp only [inner, List.mem_append, List.mem_cons, not_or]
  exact ⟨hgap, hkeyword, hspace, hname, by decide, s.body_plain⟩

theorem inner_head_ne (s : Spelling) (rest : List Char) :
    (s.inner ++ rest).head? ≠ some '#' := by
  cases hgap : s.gap with
  | nil => simp [inner, hgap, keyword]
  | cons c cs =>
      have hc : isBlank c = true := s.gap_blank c (by simp [hgap])
      have hne : c ≠ '#' := fun heq => absurd (heq ▸ hc) (by decide)
      simpa [inner, hgap] using hne

/-- An opening cannot begin in text without a hyphen that a closing ends. -/
theorem length_le_of_opening_after {run rest before tail : List Char}
    (hrun : '-' ∉ run) (htail : tail.head? ≠ some '#')
    (h : run ++ (closing ++ rest) = before ++ (opening ++ tail)) :
    run.length + 3 ≤ before.length := by
  rcases List.append_eq_append_iff.1 h with ⟨x, rfl, hx⟩ | ⟨x, rfl, hx⟩
  · rcases x with _ | ⟨a, _ | ⟨b, _ | ⟨c, x⟩⟩⟩
    · simp [closing, opening] at hx
    · simp [closing, opening] at hx
    · simp [closing, opening] at hx
    · simp only [List.length_append, List.length_cons]
      omega
  · exfalso
    rcases x with _ | ⟨a, _ | ⟨b, _ | ⟨c, x⟩⟩⟩
    · simp [closing, opening] at hx
    · simp [closing, opening] at hx
    · simp only [closing, opening, List.cons_append, List.nil_append,
        List.cons.injEq] at hx
      rw [hx.2.2.2, List.head?_cons] at htail
      exact htail rfl
    · simp only [opening, List.cons_append, List.cons.injEq] at hx
      rw [← hx.2.2.1] at hrun
      exact hrun (by simp)

/-- A declaration that begins after the start of another one begins after its
end. -/
theorem length_le_of_later {s t : Spelling} {rest before after : List Char}
    (h : s.chars ++ rest = before ++ (t.chars ++ after))
    (hbefore : before ≠ []) :
    s.chars.length ≤ before.length := by
  have htail := t.inner_head_ne (closing ++ after)
  simp only [chars, opening, List.append_assoc, List.cons_append,
    List.nil_append] at h
  rcases before with _ | ⟨a, _ | ⟨b, _ | ⟨c, before⟩⟩⟩
  · contradiction
  · simp at h
  · simp at h
  · simp only [List.cons_append, List.cons.injEq] at h
    have hle := length_le_of_opening_after s.hyphen_not_mem_inner htail h.2.2.2
    simp only [chars_length, List.length_cons]
    omega

/-- No two hyphens of a declaration are neighbours. -/
theorem not_double_hyphen {s : Spelling} {before after : List Char} :
    s.chars ≠ before ++ '-' :: '-' :: after := by
  intro h
  have hinner := s.hyphen_not_mem_inner
  have hne : s.inner ≠ [] := by simp [inner, keyword]
  simp only [chars, opening, List.cons_append, List.nil_append] at h
  rcases before with _ | ⟨a, _ | ⟨b, _ | ⟨c, before⟩⟩⟩
  · simp at h
  · simp at h
  · simp only [List.cons_append, List.nil_append, List.cons.injEq] at h
    obtain ⟨d, ds, hds⟩ := List.exists_cons_of_ne_nil hne
    rw [hds, List.cons_append, List.cons.injEq] at h
    exact hinner (by simp [hds, h.2.2.2.1])
  · simp only [List.cons_append, List.cons.injEq] at h
    rcases List.append_eq_append_iff.1 h.2.2.2 with ⟨x, -, hx⟩ | ⟨x, hx, hrest⟩
    · rcases x with _ | ⟨a, _ | ⟨b, _ | ⟨c, x⟩⟩⟩ <;> simp [closing] at hx
    · rcases x with _ | ⟨d, x⟩
      · simp [closing] at hrest
      · rw [List.cons_append, List.cons.injEq] at hrest
        exact hinner (by simp [hx, ← hrest.1])

end Spelling

namespace Declaration

theorem scan_of_at? {cs rest : List Char} {d : Declaration}
    (h : at? cs = some (d, rest)) :
    scan cs = d :: scan rest := by
  cases cs with
  | nil => simp [at?, opening, List.isPrefixOf?] at h
  | cons c cs =>
      rw [scan]
      split
      next d' rest' heq =>
        rw [h, Option.some.injEq, Prod.mk.injEq] at heq
        rw [heq.1, heq.2]
      next heq => simp [h] at heq

theorem scan_of_at?_eq_none {c : Char} {cs : List Char}
    (h : at? (c :: cs) = none) :
    scan (c :: cs) = scan cs := by
  rw [scan]
  split
  next heq => simp [h] at heq
  next => rfl

/-- No declaration that begins in front of a text reaches into it. -/
def Boundary (cs : List Char) : Prop :=
  ∀ (s : Spelling) (before rest : List Char), before ≠ [] →
    before ++ cs = s.chars ++ rest → s.chars.length ≤ before.length

theorem boundary_chars (s : Spelling) (rest : List Char) :
    Boundary (s.chars ++ rest) :=
  fun _ _ _ hbefore h => Spelling.length_le_of_later h.symm hbefore

theorem boundary_double_hyphen (rest : List Char) :
    Boundary ('-' :: '-' :: rest) := by
  intro s before after _ h
  rcases List.append_eq_append_iff.1 h with ⟨x, hx, hrest⟩ | ⟨x, rfl, -⟩
  · rcases x with _ | ⟨a, _ | ⟨b, x⟩⟩
    · simp [hx]
    · -- A declaration does not end in a hyphen.
      have hlast := congrArg List.getLast? hx
      simp only [List.cons_append, List.nil_append, List.cons.injEq] at hrest
      simp [Spelling.chars, closing, ← hrest.1] at hlast
    · simp only [List.cons_append, List.cons.injEq] at hrest
      rw [← hrest.1, ← hrest.2.1] at hx
      exact absurd hx Spelling.not_double_hyphen
  · simp

theorem at?_append {cs rest : List Char} {d : Declaration} (after : List Char)
    (h : at? cs = some (d, rest)) : at? (cs ++ after) =
      some (d, rest ++ after) := by
  obtain ⟨s, rfl, rfl⟩ := Spelling.exists_of_at? h
  rw [List.append_assoc, Spelling.at?_chars]

theorem at?_append_eq_none {c : Char} {cs after : List Char}
    (hafter : Boundary after) (h : at? (c :: cs) = none) : at?
    (c :: (cs ++ after)) = none := by
  rw [Option.eq_none_iff_forall_ne_some]
  rintro ⟨d, rest⟩ hsome
  obtain ⟨s, htext, rfl⟩ := Spelling.exists_of_at? hsome
  have hle := hafter s (c :: cs) rest (List.cons_ne_nil c cs) htext
  have hprefix : s.chars <+: c :: cs :=
    List.prefix_of_prefix_length_le ⟨rest, htext.symm⟩
      (List.prefix_append _ _) hle
  obtain ⟨tail, htail⟩ := hprefix
  rw [← htail, Spelling.at?_chars] at h
  contradiction

/-- Scanning splits in front of a boundary. -/
theorem scan_append {cs after : List Char} (hafter : Boundary after) :
    scan (cs ++ after) = scan cs ++ scan after := by
  fun_induction scan cs with
  | case1 => rfl
  | case2 c cs d rest h ih =>
      rw [scan_of_at? (at?_append after h), ih, List.cons_append]
  | case3 c cs h ih =>
      rw [List.cons_append,
        scan_of_at?_eq_none (at?_append_eq_none hafter h), ih]

/-- A written declaration is found in whatever text surrounds it. -/
theorem scan_append_chars (before : List Char) (s : Spelling)
    (after : List Char) :
    scan (before ++ (s.chars ++ after)) =
      scan before ++ s.declaration :: scan after := by
  rw [scan_append (boundary_chars s after), scan_of_at? (s.at?_chars after)]

theorem scan_append_double_hyphen (before after : List Char) :
    scan (before ++ '-' :: '-' :: after) = scan before ++ scan after := by
  have hskip : scan ('-' :: '-' :: after) = scan after := by
    rw [scan_of_at?_eq_none, scan_of_at?_eq_none] <;> simp [at?, opening,
      List.isPrefixOf?]
  rw [scan_append (boundary_double_hyphen after), hskip]

end Declaration

/-- The pairs are the positions of a text where a declaration stands, with what
stands there, in order and apart. -/
structure Spelling.Finds (found : List (Nat × Spelling)) (text : List Char) :
    Prop where
  apart : found.Pairwise fun first second => first.1 + first.2.chars.length ≤
    second.1
  mem_iff : ∀ start s, (start, s) ∈ found ↔ s.StandsAt start text

namespace Spelling

variable {found : List (Nat × Spelling)} {text skipped : List Char}

/-- Found declarations, seen from a place `n` characters earlier. -/
def later (n : Nat) (found : List (Nat × Spelling)) : List (Nat × Spelling) :=
  found.map fun entry => (n + entry.1, entry.2)

theorem standsAt_add (s : Spelling) (start : Nat) :
    s.StandsAt (skipped.length + start) (skipped ++ text) ↔
      s.StandsAt start text := by
  constructor
  · rintro ⟨before, after, htext, hlength⟩
    have hprefix : skipped <+: before :=
      List.prefix_of_prefix_length_le ⟨text, rfl⟩ ⟨_, htext.symm⟩ (by omega)
    obtain ⟨between, rfl⟩ := hprefix
    rw [List.append_assoc] at htext
    rw [List.length_append] at hlength
    exact ⟨between, after, List.append_cancel_left htext, by omega⟩
  · rintro ⟨before, after, rfl, rfl⟩
    exact ⟨skipped ++ before, after, by simp, by simp⟩

theorem mem_later {n start : Nat} {s : Spelling} :
    (start, s) ∈ later n found ↔ ∃ k, (k, s) ∈ found ∧ start = n + k := by
  simp only [later, List.mem_map, Prod.mk.injEq, Prod.exists]
  constructor
  · rintro ⟨k, t, hmem, rfl, rfl⟩
    exact ⟨k, hmem, rfl⟩
  · rintro ⟨k, hmem, rfl⟩
    exact ⟨k, s, hmem, rfl, rfl⟩

theorem apart_later {n : Nat}
    (h : found.Pairwise fun first second => first.1 + first.2.chars.length ≤
      second.1) :
    (later n found).Pairwise fun first second =>
      first.1 + first.2.chars.length ≤ second.1 := by
  rw [later, List.pairwise_map]
  exact h.imp fun hle => by simp only; omega

theorem finds_nil : Finds [] [] := by
  refine ⟨List.Pairwise.nil, fun start s => ?_⟩
  constructor
  · intro hmem
    exact absurd hmem List.not_mem_nil
  · rintro ⟨before, after, htext, -⟩
    simp [chars, opening] at htext

/-- Skip text in which nothing begins. -/
theorem Finds.skip (h : Finds found text)
    (hnone : ∀ start (s : Spelling), s.StandsAt start (skipped ++ text) →
      skipped.length ≤ start) :
    Finds (later skipped.length found) (skipped ++ text) := by
  refine ⟨apart_later h.apart, fun start s => ?_⟩
  rw [mem_later]
  constructor
  · rintro ⟨k, hmem, rfl⟩
    exact (standsAt_add s k).2 ((h.mem_iff k s).1 hmem)
  · intro hstands
    obtain ⟨k, rfl⟩ := Nat.exists_eq_add_of_le (hnone start s hstands)
    exact ⟨k, (h.mem_iff k s).2 ((standsAt_add s k).1 hstands), rfl⟩

/-- A text is the written form of at most one declaration. -/
theorem eq_of_chars_append {s t : Spelling} {rest after : List Char}
    (h : s.chars ++ rest = t.chars ++ after) : s = t := by
  have hrest := s.at?_chars rest
  rw [h, t.at?_chars after, Option.some.injEq, Prod.mk.injEq] at hrest
  rw [hrest.2, List.append_left_inj] at h
  simp only [chars, inner, List.append_assoc, List.cons_append,
    List.append_right_inj] at h
  obtain ⟨hgap, h⟩ := run_append_inj s.gap_blank (stops_keyword _) t.gap_blank
    (stops_keyword _) h
  rw [List.append_right_inj] at h
  obtain ⟨hspace, h⟩ :=
    run_append_inj s.space_blank (s.stops_name _) t.space_blank
      (t.stops_name _) h
  obtain ⟨hname, h⟩ := run_append_inj s.name_word (stops_colon _) t.name_word
    (stops_colon _) h
  rw [List.cons.injEq, List.append_left_inj] at h
  obtain ⟨⟩ := s
  obtain ⟨⟩ := t
  simp_all

/-- Skip the declaration that a text begins with. -/
theorem Finds.cons (s : Spelling) (h : Finds found text) :
    Finds ((0, s) :: later s.chars.length found) (s.chars ++ text) := by
  have hstart : ∀ start (t : Spelling), t.StandsAt start (s.chars ++ text) →
      (start = 0 ∧ t = s) ∨ s.chars.length ≤ start := by
    rintro start t ⟨before, after, htext, rfl⟩
    cases before with
    | nil => exact Or.inl ⟨rfl, (eq_of_chars_append htext).symm⟩
    | cons c cs =>
        exact Or.inr (length_le_of_later htext (List.cons_ne_nil c cs))
  refine ⟨List.pairwise_cons.2 ⟨?_, apart_later h.apart⟩, fun start t => ?_⟩
  · rintro ⟨start, t⟩ hmem
    obtain ⟨k, -, rfl⟩ := mem_later.1 hmem
    simp
  · rw [List.mem_cons, mem_later, Prod.mk.injEq]
    constructor
    · rintro (⟨rfl, rfl⟩ | ⟨k, hmem, rfl⟩)
      · exact ⟨[], text, rfl, rfl⟩
      · exact (standsAt_add t k).2 ((h.mem_iff k t).1 hmem)
    · intro hstands
      rcases hstart start t hstands with heq | hle
      · exact Or.inl heq
      · obtain ⟨k, rfl⟩ := Nat.exists_eq_add_of_le hle
        exact Or.inr ⟨k, (h.mem_iff k t).2 ((standsAt_add t k).1 hstands), rfl⟩

/-- Scanning lists what stands at all positions. -/
theorem exists_finds_scan (text : List Char) :
    ∃ found, Finds found text ∧ scan text = found.map fun entry =>
      entry.2.declaration := by
  fun_induction scan text with
  | case1 => exact ⟨[], finds_nil, rfl⟩
  | case2 c cs d rest h ih =>
      obtain ⟨found, hfinds, hscan⟩ := ih
      obtain ⟨s, htext, rfl⟩ := exists_of_at? h
      rw [htext]
      exact ⟨_, hfinds.cons s, by simp [hscan, later]⟩
  | case3 c cs h ih =>
      obtain ⟨found, hfinds, hscan⟩ := ih
      have hlater : ∀ start (s : Spelling), s.StandsAt start ([c] ++ cs) →
          [c].length ≤ start := by
        rintro start s ⟨before, after, htext, rfl⟩
        cases before with
        | nil =>
            rw [List.singleton_append, List.nil_append] at htext
            rw [htext, s.at?_chars] at h
            contradiction
        | cons c cs => simp
      exact ⟨_, hfinds.skip hlater, by simp [hscan, later]⟩

end Spelling

namespace Schema

/-- The schema of a template has one variable for every position at which a
declaration stands, in the order of the positions; declarations never overlap,
and two hyphens cut a template into parts with schemas of their own. -/
theorem ofTemplate_finds_all :
    (∀ template : String, ∃ found : List (Nat × Spelling),
      found.Pairwise
        (fun first second => first.1 + first.2.chars.length ≤ second.1) ∧
      (∀ start s, (start, s) ∈ found ↔ s.StandsAt start template.toList) ∧
      ofTemplate template = found.map fun entry =>
        entry.2.declaration.toVariable) ∧
    ∀ first second : String,
      ofTemplate (first ++ "--" ++ second) =
        ofTemplate first ++ ofTemplate second := by
  constructor
  · intro template
    obtain ⟨found, hfinds, hscan⟩ := Spelling.exists_finds_scan template.toList
    exact ⟨found, hfinds.apart,
      hfinds.mem_iff, by rw [ofTemplate, hscan, List.map_map]; rfl⟩
  · intro first second
    have htext : (first ++ "--" ++ second).toList =
        first.toList ++ '-' :: '-' :: second.toList := by
      simp [String.toList_append]
    rw [ofTemplate, htext, scan_append_double_hyphen, List.map_append,
      ofTemplate, ofTemplate]

end Schema

end Stencil
