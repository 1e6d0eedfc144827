import Mathlib.Data.Option.Basic

/-! A value looked up in layers through an in-band sentinel for absence: the sentinel in a
layer that does define the value is taken for absence. -/
namespace Layers

variable {α : Type*} [DecidableEq α]

/-- Ask one layer with the sentinel as answer for absence, else go on. -/
def resolve (sentinel : α) (layer : Option α) (next : α) : α :=
  if layer.getD sentinel ≠ sentinel then layer.getD sentinel else next

@[simp] theorem resolve_none (sentinel next : α) : resolve sentinel none next = next := by simp [resolve]

theorem resolve_some {sentinel value : α} (ordinary : value ≠ sentinel) (next : α) :
    resolve sentinel (some value) next = value := by simp [resolve,ordinary]

/-- The sentinel never comes out of layers whose last resort is another value. -/
theorem resolve_ne {sentinel : α} (layer : Option α) {next : α} (ordinary : next ≠ sentinel) :
    resolve sentinel layer next ≠ sentinel := by
  unfold resolve
  split
  · assumption
  · exact ordinary

/-- Two layers give the first value written exactly when that value is not the sentinel. -/
theorem resolve_two_iff {sentinel fallback : α} (ordinary : fallback ≠ sentinel) (own shared : Option α) :
    resolve sentinel own (resolve sentinel shared fallback) = own.getD (shared.getD fallback) ↔
      own.getD (shared.getD fallback) ≠ sentinel := by
  constructor
  · intro same
    rw [← same]
    exact resolve_ne own (resolve_ne shared ordinary)
  · intro written
    cases own with
    | some value => exact resolve_some written _
    | none =>
      cases shared with
      | some value =>
        rw [resolve_none]
        exact resolve_some written _
      | none => simp

end Layers
