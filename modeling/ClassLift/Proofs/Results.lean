/-
  Results: what a success says about the steps it was made of.

  Most functions of this library answer with a result, a value or the reason why there is none, and
  pass the errors of their parts on.  What a caller needs to know about a success is always the same:
  each part was a success too, and this is what came of it.  So it is said here once, as equivalences
  that `simp` can use, and the case analysis on the parts is not repeated from proof to proof.
-/
import Mathlib.Tactic.Common

namespace ClassLift

variable {ε δ α β : Type}

/-- What was made of a result is a value exactly if the result is one. -/
@[simp]
theorem map_eq_ok_iff {x : Except ε α} {f : α → β} {b : β} :
    x.map f = .ok b ↔ ∃ a, x = .ok a ∧ f a = b := by
  cases x <;> simp [Except.map]

/-- And it is an error exactly if the result is that error. -/
@[simp]
theorem map_eq_error_iff {x : Except ε α} {f : α → β} {e : ε} :
    x.map f = .error e ↔ x = .error e := by
  cases x <;> simp [Except.map]

/-- Errors that are named anew change no success. -/
@[simp]
theorem mapError_eq_ok_iff {x : Except ε α} {f : ε → δ} {a : α} :
    x.mapError f = .ok a ↔ x = .ok a := by
  cases x <;> simp [Except.mapError]

/-- An error under its new name was an error before. -/
@[simp]
theorem mapError_eq_error_iff {x : Except ε α} {f : ε → δ} {d : δ} :
    x.mapError f = .error d ↔ ∃ e, x = .error e ∧ f e = d := by
  cases x <;> simp [Except.mapError]

/-- **Two steps in a row** are a success exactly if the first is one and the second is one with what
    came of the first. -/
@[simp]
theorem bind_eq_ok_iff {x : Except ε α} {f : α → Except ε β} {b : β} :
    x.bind f = .ok b ↔ ∃ a, x = .ok a ∧ f a = .ok b := by
  cases x <;> simp [Except.bind]

/-- What was computed of a result is told by some result. -/
theorem exists_ok_of_map_toOption {x : Except ε α} {f : α → β} {b : β}
    (h : x.toOption.map f = some b) : ∃ a, x = .ok a ∧ f a = b := by
  cases x with
  | error e => exact absurd h (by simp [Except.toOption])
  | ok a => exact ⟨a, rfl, Option.some.inj h⟩

end ClassLift
