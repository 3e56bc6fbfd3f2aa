/-
What JSON texts hold.  The values read are exactly the readable ones in
canonical form, since each of these is read back from its own text.
-/
import Stencil.Proofs.Entries
import Stencil.Proofs.Json.ReadBack

namespace Stencil.Json

theorem readable_of_integerLiteral (depth : Nat) {negative : Bool} {n : Nat}
    {j : Json} (h : ofIntegerLiteral? negative n = some j) :
    Readable depth j := by
  rcases ofIntegerLiteral?_cases h with
    ⟨-, -, rfl⟩ | ⟨hword, rfl⟩ | ⟨-, hfinite, rfl⟩
  · exact .number depth (Double.zero_canonical true) rfl
  · exact .integer depth hword
  · exact .number depth (Double.ofRatio_canonical _ _ (by decide)) hfinite

theorem readable_of_readNumber? (depth : Nat) {cs rest : List Char} {j : Json}
    (h : readNumber? cs = some (j, rest)) : Readable depth j := by
  rw [readNumber?_eq] at h
  simp only [Option.bind_eq_some_iff, Option.map_eq_some_iff] at h
  obtain ⟨whole, -, fraction, -, power, -, value, hvalue, heq⟩ := h
  obtain ⟨rfl, -⟩ := Prod.mk.inj heq
  unfold NumberParts.toJson? at hvalue
  split at hvalue
  next => exact readable_of_integerLiteral depth hvalue
  next =>
      simp only at hvalue
      split at hvalue
      next hfinite =>
          obtain rfl := Option.some.inj hvalue
          exact .number depth (Double.ofDecimal_canonical _ _ _) hfinite
      next => contradiction

section Containers

variable {item : List Char → Option (Json × List Char)} {P : Json → Prop}

/-- What holds of all items read one by one holds of the items read in a row. -/
theorem forall_of_readItems?
    (hitem : ∀ cs j rest, item cs = some (j, rest) → P j) {fuel : Nat}
    {cs rest : List Char} {items : List Json}
    (h : readItems? item fuel cs = some (items, rest)) :
    ∀ j ∈ items, P j := by
  induction fuel generalizing cs items rest with
  | zero => cases h
  | succ fuel ih =>
      rw [readItems?] at h
      simp only [Option.bind_eq_bind, Option.bind_eq_some_iff] at h
      obtain ⟨⟨value, more⟩, hvalue, h⟩ := h
      have hhead := hitem cs value more hvalue
      split at h
      · obtain ⟨rfl, -⟩ := Prod.mk.inj (Option.some.inj h)
        simpa using hhead
      · obtain ⟨⟨values, last⟩, hvalues, h⟩ := Option.bind_eq_some_iff.1 h
        obtain ⟨rfl, -⟩ := Prod.mk.inj (Option.some.inj h)
        exact List.forall_mem_cons.2 ⟨hhead, ih hvalues⟩
      · contradiction

theorem forall_of_readFields?
    (hitem : ∀ cs j rest, item cs = some (j, rest) → P j) {fuel : Nat}
    {cs rest : List Char} {fields : List (String × Json)}
    (h : readFields? item fuel cs = some (fields, rest)) :
    ∀ field ∈ fields, P field.2 := by
  induction fuel generalizing cs fields rest with
  | zero => cases h
  | succ fuel ih =>
      rw [readFields?] at h
      split at h
      · simp only [Option.bind_eq_bind, Option.bind_eq_some_iff] at h
        obtain ⟨⟨name, more⟩, -, h⟩ := h
        split at h
        · obtain ⟨⟨value, more⟩, hvalue, h⟩ := Option.bind_eq_some_iff.1 h
          have hhead := hitem _ value more hvalue
          split at h
          · obtain ⟨rfl, -⟩ := Prod.mk.inj (Option.some.inj h)
            simpa using hhead
          · obtain ⟨⟨others, last⟩, hothers, h⟩ := Option.bind_eq_some_iff.1 h
            obtain ⟨rfl, -⟩ := Prod.mk.inj (Option.some.inj h)
            exact List.forall_mem_cons.2 ⟨hhead, ih hothers⟩
          · contradiction
        · contradiction
      · contradiction

end Containers

theorem readable_of_readWord? (depth : Nat) {word : String} {value j : Json}
    {cs rest : List Char} (hvalue : Readable depth value)
    (h : readWord? word value cs = some (j, rest)) :
    Readable depth j := by
  unfold readWord? at h
  simp only at h
  split at h
  · obtain ⟨rfl, -⟩ := Prod.mk.inj (Option.some.inj h)
    exact hvalue
  · contradiction

/-- Every value that is read is readable at the depth it was read at. -/
theorem readable_of_readValue? {depth : Nat} {cs rest : List Char} {j : Json}
    (h : readValue? depth cs = some (j, rest)) : Readable depth j := by
  induction depth using Nat.strong_induction_on generalizing cs j rest with
  | h depth ih =>
      rw [readValue?.eq_def] at h
      simp only at h
      split at h
      · contradiction
      · obtain ⟨⟨s, more⟩, -, heq⟩ := Option.map_eq_some_iff.1 h
        obtain ⟨rfl, -⟩ := Prod.mk.inj heq
        exact .string depth s
      · split at h
        · contradiction
        next inner =>
            have hinner : ∀ cs j rest, readValue? inner cs = some (j, rest) →
                Readable inner j :=
              fun cs j rest hread => ih inner (Nat.lt_succ_self inner) hread
            split at h
            · obtain ⟨rfl, -⟩ := Prod.mk.inj (Option.some.inj h)
              exact .array (List.forall_mem_nil _)
            · obtain ⟨⟨items, more⟩, hitems, heq⟩ := Option.map_eq_some_iff.1 h
              obtain ⟨rfl, -⟩ := Prod.mk.inj heq
              exact .array (forall_of_readItems? hinner hitems)
      · split at h
        · contradiction
        next inner =>
            have hinner : ∀ cs j rest, readValue? inner cs = some (j, rest) →
                Readable inner j :=
              fun cs j rest hread => ih inner (Nat.lt_succ_self inner) hread
            split at h
            · obtain ⟨rfl, -⟩ := Prod.mk.inj (Option.some.inj h)
              exact .object (List.forall_mem_nil _)
            · obtain ⟨⟨fields, more⟩, hfields, heq⟩ :=
                Option.map_eq_some_iff.1 h
              obtain ⟨rfl, -⟩ := Prod.mk.inj heq
              exact .object (forall_of_readFields? hinner hfields)
      · exact readable_of_readWord? depth (.bool depth true) h
      · exact readable_of_readWord? depth (.bool depth false) h
      · exact readable_of_readWord? depth (.null depth) h
      · exact readable_of_readNumber? depth h

theorem canonicalItems_eq_map (items : List Json) :
    canonicalItems items = items.map canonical := by
  induction items with
  | nil => rfl
  | cons j items ih => rw [canonicalItems, ih, List.map_cons]

theorem canonicalFields_sorted (fields : List (String × Json)) :
    Entries.Sorted (canonicalFields fields) := by
  induction fields with
  | nil => exact List.Pairwise.nil
  | cons field fields ih =>
      rw [canonicalFields]
      split
      · exact ih
      · exact Entries.insert_sorted ih _ _

/-- The fields of the canonical form are canonical forms of fields. -/
theorem mem_canonicalFields {fields : List (String × Json)}
    {field : String × Json} (h : field ∈ canonicalFields fields) :
    ∃ source ∈ fields, field = (source.1, source.2.canonical) := by
  induction fields with
  | nil => cases h
  | cons source fields ih =>
      rw [canonicalFields] at h
      split at h
      · obtain ⟨found, hfound, heq⟩ := ih h
        exact ⟨found, List.mem_cons_of_mem _ hfound, heq⟩
      · rcases Entries.mem_insert h with heq | h
        · exact ⟨source, List.mem_cons_self, heq⟩
        · obtain ⟨found, hfound, heq⟩ := ih h
          exact ⟨found, List.mem_cons_of_mem _ hfound, heq⟩

/-- Sorted fields with canonical values are left as they are. -/
theorem canonicalFields_eq_self {fields : Entries Json}
    (hsorted : Entries.Sorted fields)
    (hvalues : ∀ field ∈ fields, field.2.canonical = field.2) :
    canonicalFields fields = fields := by
  induction fields with
  | nil => rfl
  | cons field fields ih =>
      obtain ⟨hhead, hrest⟩ := List.pairwise_cons.1 hsorted
      have hfields := ih hrest fun other hother =>
        hvalues other (List.mem_cons_of_mem _ hother)
      have hcontains : Entries.contains field.1 fields = false := by
        rw [Entries.contains, Entries.get?_eq_none_of_lt hhead]
        rfl
      rw [canonicalFields, hfields, if_neg (by simp [hcontains]),
        hvalues field List.mem_cons_self, Entries.insert_of_lt hhead]

theorem Readable.canonical {depth : Nat} {j : Json} (h : Readable depth j) :
    Readable depth j.canonical ∧ j.canonical.canonical = j.canonical := by
  induction h with
  | null => exact ⟨.null _, rfl⟩
  | bool _ b => exact ⟨.bool _ b, rfl⟩
  | integer _ hn => exact ⟨.integer _ hn, rfl⟩
  | number _ hcanonical hfinite => exact ⟨.number _ hcanonical hfinite, rfl⟩
  | string _ s => exact ⟨.string _ s, rfl⟩
  | array _ ih =>
      rw [Json.canonical, canonicalItems_eq_map]
      constructor
      · refine .array fun item hitem => ?_
        obtain ⟨source, hsource, rfl⟩ := List.mem_map.1 hitem
        exact (ih source hsource).1
      · rw [Json.canonical, canonicalItems_eq_map, List.map_map]
        congr 1
        exact List.map_congr_left fun source hsource => (ih source hsource).2
  | object _ ih =>
      rw [Json.canonical]
      constructor
      · refine .object fun field hfield => ?_
        obtain ⟨source, hsource, rfl⟩ := mem_canonicalFields hfield
        exact (ih source hsource).1
      · rw [Json.canonical, canonicalFields_eq_self (canonicalFields_sorted _)]
        intro field hfield
        obtain ⟨source, hsource, rfl⟩ := mem_canonicalFields hfield
        exact (ih source hsource).2

/-- The fields of a canonical object are sorted and canonical themselves. -/
theorem Readable.canonical_fields {depth : Nat} {fields : Entries Json}
    (h : Readable depth (.object fields))
    (hcanonical : (Json.object fields).canonical = .object fields) :
    Entries.Sorted fields ∧ ∀ field ∈ fields, field.2.canonical = field.2 := by
  have heq : canonicalFields fields = fields := Json.object.inj hcanonical
  constructor
  · rw [← heq]
    exact canonicalFields_sorted fields
  · intro field hfield
    rw [← heq] at hfield
    obtain ⟨source, hsource, rfl⟩ := mem_canonicalFields hfield
    cases h with
    | object hfields => exact (hfields source hsource).canonical.2

/-- A value is held by some text if and only if it is readable and canonical,
and then it is held by its own text. -/
theorem exists_ofTextWithin?_iff {depth : Nat} {j : Json} :
    (∃ text, ofTextWithin? depth text = some j) ↔
      Readable depth j ∧ j.canonical = j := by
  constructor
  · rintro ⟨text, h⟩
    unfold ofTextWithin? at h
    split at h
    next value rest hread =>
        split at h
        · obtain rfl := Option.some.inj h
          exact (readable_of_readValue? hread).canonical
        · contradiction
    next => contradiction
  · rintro ⟨hreadable, hcanonical⟩
    exact ⟨j.compact, by rw [ofTextWithin?_compact hreadable, hcanonical]⟩

end Stencil.Json
