import Mathlib.Data.List.Basic

/-! A row of cells and a stream of addressed inputs: each cell sees the inputs addressed to it,
in their order, and no other. -/
namespace Cells

variable {α ι : Type*}

def feed (act : ι → α → α) (cells : List α) (inputs : List (Nat × ι)) : List α :=
  inputs.foldl (fun cells input => cells.modify input.1 (act input.2)) cells

/-- The inputs addressed to one cell. -/
def addressed (i : Nat) (inputs : List (Nat × ι)) : List ι :=
  inputs.filterMap (fun input => if input.1 = i then some input.2 else none)

@[simp] theorem feed_nil (act : ι → α → α) (cells : List α) : feed act cells [] = cells := rfl

theorem feed_append (act : ι → α → α) (cells : List α) (first second : List (Nat × ι)) :
    feed act cells (first ++ second) = feed act (feed act cells first) second := List.foldl_append

@[simp] theorem addressed_append (i : Nat) (first second : List (Nat × ι)) :
    addressed i (first ++ second) = addressed i first ++ addressed i second := List.filterMap_append

theorem feed_getElem? (act : ι → α → α) (cells : List α) (inputs : List (Nat × ι)) (i : Nat) :
    (feed act cells inputs)[i]? = cells[i]?.map (fun cell => (addressed i inputs).foldl (fun cell input => act input cell) cell) := by
  induction inputs generalizing cells with
  | nil => simp [addressed]
  | cons input rest ih =>
    have turned : feed act cells (input :: rest) = feed act (cells.modify input.1 (act input.2)) rest := rfl
    rw [turned, ih, List.getElem?_modify]
    by_cases here : input.1 = i
    · cases cells[i]? <;> simp [addressed,here]
    · simp [addressed,here]

/-- What a change of one cell keeps of it, the row keeps. -/
theorem map_modify {β : Type*} {act : α → α} {view : α → β} (keeps : ∀ cell, view (act cell) = view cell)
    (cells : List α) (i : Nat) : (cells.modify i act).map view = cells.map view := by
  induction cells generalizing i with
  | nil => simp
  | cons cell rest ih => cases i <;> simp [keeps,ih]

theorem map_feed {β : Type*} (act : ι → α → α) (view : α → β) (keeps : ∀ input cell, view (act input cell) = view cell)
    (cells : List α) (inputs : List (Nat × ι)) : (feed act cells inputs).map view = cells.map view := by
  induction inputs generalizing cells with
  | nil => rfl
  | cons input rest ih => exact (ih _).trans (map_modify (keeps input.2) cells input.1)

end Cells
