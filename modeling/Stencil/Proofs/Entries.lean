/-
Sorted maps.  Storing keeps the order, and look-up goes through the operations
on entries.
-/
import Stencil.Entries

namespace Stencil.Entries

variable {α : Type u} {β : Type v} {m : Entries α} {key : String} {value : α}

theorem mem_insert {entry : String × α} (h : entry ∈ insert key value m) :
    entry = (key, value) ∨ entry ∈ m := by
  induction m with
  | nil => exact Or.inl (List.mem_singleton.1 h)
  | cons head rest ih =>
      obtain ⟨k, v⟩ := head
      unfold insert at h
      split at h
      · rcases List.mem_cons.1 h with h | h
        · exact Or.inl h
        · exact Or.inr (List.mem_cons_of_mem _ h)
      · split at h
        · exact List.mem_cons.1 h
        · rcases List.mem_cons.1 h with h | h
          · exact Or.inr (h ▸ List.mem_cons_self)
          · rcases ih h with h | h
            · exact Or.inl h
            · exact Or.inr (List.mem_cons_of_mem _ h)

theorem lt_of_not_lt {a b : String} (hne : a ≠ b) (hlt : ¬ a < b) : b < a := by
  refine Classical.byContradiction fun hge => hne ?_
  exact String.le_antisymm (String.not_lt.1 hge) (String.not_lt.1 hlt)

theorem insert_sorted (h : Sorted m) (key : String) (value : α) :
    Sorted (insert key value m) := by
  induction m with
  | nil => exact List.pairwise_singleton _ _
  | cons head rest ih =>
      obtain ⟨k, v⟩ := head
      obtain ⟨hhead, hrest⟩ := List.pairwise_cons.1 h
      unfold insert
      split
      next heq =>
          subst heq
          exact List.pairwise_cons.2 ⟨hhead, hrest⟩
      next hne =>
          split
          next hlt =>
              refine List.pairwise_cons.2 ⟨?_, h⟩
              intro entry hentry
              rcases List.mem_cons.1 hentry with rfl | hentry
              · exact hlt
              · exact String.lt_trans hlt (hhead entry hentry)
          next hnot =>
              refine List.pairwise_cons.2 ⟨?_, ih hrest⟩
              intro entry hentry
              rcases mem_insert hentry with rfl | hentry
              · exact lt_of_not_lt hne hnot
              · exact hhead entry hentry

/-- A name that precedes all others is stored in front. -/
theorem insert_of_lt (h : ∀ entry ∈ m, key < entry.1) :
    insert key value m = (key, value) :: m := by
  cases m with
  | nil => rfl
  | cons head rest =>
      have hlt := h head List.mem_cons_self
      have hne : key ≠ head.1 := String.ne_of_lt hlt
      rw [insert, if_neg hne, if_pos hlt]

theorem get?_eq_none_of_lt (h : ∀ entry ∈ m, key < entry.1) :
    get? key m = none := by
  induction m with
  | nil => rfl
  | cons head rest ih =>
      have hlt := h head List.mem_cons_self
      have hne : key ≠ head.1 := String.ne_of_lt hlt
      rw [get?, if_neg hne]
      exact ih fun entry hentry => h entry (List.mem_cons_of_mem head hentry)

theorem mem_of_get? (h : get? key m = some value) : (key, value) ∈ m := by
  induction m with
  | nil => cases h
  | cons head rest ih =>
      obtain ⟨k, v⟩ := head
      rw [get?] at h
      split at h
      next heq =>
          obtain rfl := Option.some.inj h
          rw [heq]
          exact List.mem_cons_self
      next => exact List.mem_cons_of_mem _ (ih h)

theorem contains_insert (other : String) :
    contains other (insert key value m) =
      (other == key || contains other m) := by
  rw [contains, get?_insert]
  by_cases heq : other = key <;> simp [heq, contains]

theorem get?_map (f : α → β) (key : String) (m : Entries α) :
    get? key (m.map fun entry => (entry.1, f entry.2)) =
      (get? key m).map f := by
  induction m with
  | nil => rfl
  | cons head rest ih =>
      rw [List.map_cons, get?, get?]
      split
      · rfl
      · exact ih

/-- Restriction to some names leaves the values of these names. -/
theorem get?_filter (p : String → Bool) (key : String) (m : Entries α) :
    get? key (m.filter fun entry => p entry.1) =
      if p key then get? key m else none := by
  induction m with
  | nil => simp [get?]
  | cons head rest ih =>
      rw [List.filter_cons]
      by_cases heq : key = head.1
      · subst heq
        cases hp : p head.1 with
        | true => simp [get?]
        | false => simpa [get?, hp] using ih
      · cases hp : p head.1 with
        | true => simp [get?, heq, ih]
        | false => simp [get?, heq, ih]

end Stencil.Entries
