/-
Maps from names to values, kept as lists sorted by name.  A name stands at
most once, and the order is that of code points.
-/

namespace Stencil

/-- A map from names, as a list sorted by name. -/
abbrev Entries (α : Type u) := List (String × α)

namespace Entries

variable {α : Type u} {β : Type v}

/-- Each name precedes all later ones. -/
def Sorted (m : Entries α) : Prop :=
  m.Pairwise fun a b => a.1 < b.1

/-- The value stored under a name. -/
def get? (key : String) : Entries α → Option α
  | [] => none
  | (k, v) :: rest => if key = k then some v else get? key rest

/-- Store a value under a name, over an earlier one. -/
def insert (key : String) (value : α) : Entries α → Entries α
  | [] => [(key, value)]
  | (k, v) :: rest =>
      if key = k then (key, value) :: rest
      else if key < k then (key, value) :: (k, v) :: rest
      else (k, v) :: insert key value rest

/-- Store pairs one after the other, so the last one of a name stays. -/
def ofPairs (pairs : List (String × α)) : Entries α :=
  pairs.foldl (fun m pair => insert pair.1 pair.2 m) []

def contains (key : String) (m : Entries α) : Bool :=
  (get? key m).isSome

theorem get?_insert (key other : String) (value : α) (m : Entries α) :
    get? other (insert key value m) =
      if other = key then some value else get? other m := by
  induction m with
  | nil => simp [insert, get?]
  | cons head rest ih =>
      obtain ⟨k, v⟩ := head
      by_cases hkey : key = k
      · subst hkey
        by_cases hother : other = key <;> simp [insert, get?, hother]
      · by_cases hlt : key < k
        · simp [insert, get?, hkey, hlt]
        · by_cases hother : other = k
          · subst hother
            simp [insert, get?, hkey, hlt, Ne.symm hkey]
          · simp [insert, get?, hkey, hlt, hother, ih]

example : ofPairs [("b", 1), ("a", 2), ("b", 3)] = [("a", 2), ("b", 3)] := by
  decide

end Entries

end Stencil
