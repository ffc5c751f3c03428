import Mathlib.Logic.Function.Iterate

/-!
# How deep calls nest

A function that is defined by recursion is computed by calls inside each other.  One of these calls
is its *layer*: it tells what the function gives, from what the calls inside it give.

Calls nest no deeper than some number if it makes no difference what would be given further down:
so many layers give the value of the function, whatever they are put on (`CallsWithin`).

Where the calls inside are on smaller things, their size bounds how deep they nest
(`Recurses.callsWithin`).
-/

namespace PageExtract

variable {α β : Type}

/-- Whether a layer computes a function.  `inside` tells on what the calls inside may be. -/
structure Recurses (inside : α → α → Prop) (layer : (α → β) → α → β) (f : α → β) : Prop where
  /-- The layer gives what the function gives, from what the function gives inside. -/
  unfolds : ∀ x, f x = layer f x
  /-- The layer asks for nothing else. -/
  asks : ∀ {g h : α → β} {x : α}, (∀ y, inside x y → g y = h y) → layer g x = layer h x

/-- Whether a layer computes a function, and at one place with at most so many calls inside each
other. -/
structure CallsWithin (n : Nat) (layer : (α → β) → α → β) (f : α → β) (x : α) : Prop where
  /-- The layer gives what the function gives, from what the function gives inside. -/
  unfolds : ∀ x, f x = layer f x
  /-- What would be given further down makes no difference. -/
  suffices_layers : ∀ deeper : α → β, layer^[n] deeper x = f x

/-- Calls on smaller things nest no deeper than the size of the thing. -/
theorem Recurses.callsWithin {inside : α → α → Prop} {layer : (α → β) → α → β} {f : α → β}
    (h : Recurses inside layer f) {size : α → Nat} (positive : ∀ x, 0 < size x)
    (smaller : ∀ x y, inside x y → size y < size x) {n : Nat} {x : α} (bound : size x ≤ n) :
    CallsWithin n layer f x := by
  refine ⟨h.unfolds, fun deeper => ?_⟩
  induction n generalizing x with
  | zero => exact absurd bound (Nat.not_le_of_lt (positive x))
  | succ n ih =>
    rw [Function.iterate_succ_apply', h.unfolds x]
    refine h.asks fun y within => ih ?_
    have := smaller x y within
    omega

end PageExtract
