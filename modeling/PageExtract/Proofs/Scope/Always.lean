import PageExtract.Scope.Evaluate

/-!
# What always holds of a result

A scope answers in a monad, and nothing is known of the monad but its laws.  So a
property of what evaluation gives is said of all that the monad gives: `Always`
holds of a computation if it could as well give values that come with a proof of
the property.

For answers that depend on a state, this is what holds of the value that is given
from each state (`Always.fst_run`).
-/

namespace PageExtract

/-- Whether `p` holds of all that a computation gives: it could as well give values
that come with a proof of `p`. -/
def Always {m : Type → Type} [Monad m] {α : Type} (p : α → Prop) (x : m α) : Prop :=
  ∃ y : m { a // p a }, Subtype.val <$> y = x

namespace Always

variable {m : Type → Type} [Monad m] [LawfulMonad m] {α β : Type} {p : α → Prop} {q : β → Prop}

/-- Nothing at all is asked of a result. -/
theorem nothing (x : m α) : Always (fun _ => True) x :=
  ⟨(fun a => ⟨a, trivial⟩) <$> x, by rw [← comp_map]; exact id_map x⟩

theorem pure {a : α} (h : p a) : Always p (pure a : m α) :=
  ⟨Pure.pure ⟨a, h⟩, map_pure _ _⟩

theorem bind {x : m α} {f : α → m β} (hx : Always p x) (hf : ∀ a, p a → Always q (f a)) :
    Always q (x >>= f) := by
  obtain ⟨y, rfl⟩ := hx
  refine ⟨y >>= fun a => (hf a.1 a.2).choose, ?_⟩
  rw [map_bind, bind_map_left]
  congr 1
  funext a
  exact (hf a.1 a.2).choose_spec

theorem imp {x : m α} {q : α → Prop} (hx : Always p x) (h : ∀ a, p a → q a) : Always q x := by
  rw [← bind_pure x]
  exact hx.bind fun a ha => pure (h a ha)

/-- What is always given is given. -/
theorem run {x : Id α} (h : Always p x) : p x.run := by
  obtain ⟨y, rfl⟩ := h
  exact y.run.2

/-- What is always given is given from each state. -/
theorem fst_run {σ : Type} {x : StateM σ α} (h : Always p x) (s : σ) : p (x.run s).1 := by
  obtain ⟨y, rfl⟩ := h
  exact (y.run s).1.2

/-- Records of things that are each as they should be. -/
theorem recordsOf {record : α → m Record} {q : Record → Prop} {things : List α}
    (h : ∀ a ∈ things, Always q (record a)) :
    Always (fun items => ∀ item ∈ items, q item) (PageExtract.recordsOf record things) := by
  induction things with
  | nil => exact pure fun _ h => nomatch h
  | cons first rest ih =>
    obtain ⟨one, others⟩ := List.forall_mem_cons.mp h
    refine bind one ?_
    intro item hi
    exact bind (ih others) fun items his => pure (List.forall_mem_cons.mpr ⟨hi, his⟩)

end Always

end PageExtract
