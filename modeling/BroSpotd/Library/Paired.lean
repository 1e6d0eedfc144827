import BroSpotd.Library.Keyed
import Mathlib.Data.List.Forall2

/-! Two lists related place by place, with the same keys in the same places: a first-match
search hits the same place in both, and so does taking the hit out. -/
namespace Paired

variable {α β κ : Type*} [DecidableEq κ] {related : α → β → Prop} (key : α → κ) (other : β → κ)

theorem eraseP (same : ∀ a b, related a b → key a = other b) {left : List α} {right : List β}
    (pairs : List.Forall₂ related left right) (k : κ) :
    List.Forall₂ related (left.eraseP (fun a => key a = k)) (right.eraseP (fun b => other b = k)) := by
  induction pairs with
  | nil => exact .nil
  | @cons a b left right first rest ih =>
    have keys := same a b first
    by_cases hit : key a = k
    · simpa [hit,← keys] using rest
    · simpa [hit,← keys] using ⟨first,ih⟩

theorem find (same : ∀ a b, related a b → key a = other b) {left : List α} {right : List β}
    (pairs : List.Forall₂ related left right) (k : κ) :
    Keyed.find key k left = none ∧ Keyed.find other k right = none ∨
    ∃ a b, Keyed.find key k left = some a ∧ Keyed.find other k right = some b ∧ related a b := by
  induction pairs with
  | nil => exact .inl ⟨rfl,rfl⟩
  | @cons a b left right first rest ih =>
    have keys := same a b first
    rw [Keyed.find_cons, Keyed.find_cons, ← keys]
    by_cases hit : key a = k
    · exact .inr ⟨a, b, by rw [if_pos hit], by rw [if_pos hit], first⟩
    · rw [if_neg hit, if_neg hit]
      exact ih

end Paired
