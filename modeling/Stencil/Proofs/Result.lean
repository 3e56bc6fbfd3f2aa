/-
Results that may be failures.  A computation that ends with a result has had a
result at every step, so proofs take its steps apart one by one.
-/

namespace Stencil

variable {ε α β : Type} {x : Except ε α}

theorem of_bind_eq_ok {f : α → Except ε β} {result : β}
    (h : (x >>= f) = .ok result) :
    ∃ value, x = .ok value ∧ f value = .ok result := by
  cases x with
  | error e => cases h
  | ok value => exact ⟨value, rfl, h⟩

theorem of_map_eq_ok {f : α → β} {result : β} (h : x.map f = .ok result) :
    ∃ value, x = .ok value ∧ f value = result := by
  cases x with
  | error e => cases h
  | ok value => exact ⟨value, rfl, Except.ok.inj h⟩

end Stencil
