import Mathlib.Data.List.Basic

/-! A loop over a sequence whose turn looks at the element in front and at those behind it,
and says how many of the latter it takes as well. An exception ends the loop. -/
namespace Scan

variable {α ε σ : Type*}

/-- The result counts the elements taken besides the one in front. -/
abbrev Turn (ε α σ : Type*) := α → List α → σ → Except ε Nat × σ

/-- The first argument counts the elements in front that the last turn has taken. -/
def loop (turn : Turn ε α σ) : Nat → List α → σ → Except ε Unit × σ
  | _, [], s => (.ok (), s)
  | taken + 1, _ :: rest, s => loop turn taken rest s
  | 0, x :: rest, s =>
    match turn x rest s with
    | (.ok taken, s) => loop turn taken rest s
    | (.error e, s) => (.error e, s)

def scan (turn : Turn ε α σ) (list : List α) (s : σ) : Except ε Unit × σ := loop turn 0 list s

theorem loop_taken (turn : Turn ε α σ) (taken : Nat) (list : List α) (s : σ) :
    loop turn taken list s = scan turn (list.drop taken) s := by
  induction list generalizing taken with
  | nil => cases taken <;> rfl
  | cons x rest ih =>
    cases taken with
    | zero => rfl
    | succ taken => exact ih taken

@[simp] theorem scan_nil (turn : Turn ε α σ) (s : σ) : scan turn [] s = (.ok (), s) := rfl

theorem scan_ok {turn : Turn ε α σ} {x : α} {rest : List α} {s s' : σ} {taken : Nat}
    (returned : turn x rest s = (.ok taken, s')) : scan turn (x :: rest) s = scan turn (rest.drop taken) s' := by
  rw [← loop_taken]
  simp [scan,loop,returned]

theorem scan_error {turn : Turn ε α σ} {x : α} {rest : List α} {s s' : σ} {e : ε}
    (raised : turn x rest s = (.error e, s')) : scan turn (x :: rest) s = (.error e, s') := by
  simp [scan,loop,raised]

/-- Induction over what is left: any tail may be what a turn leaves. -/
theorem tails_induction {motive : List α → Prop} (nil : motive [])
    (cons : ∀ x rest, (∀ taken, motive (rest.drop taken)) → motive (x :: rest)) (list : List α) : motive list := by
  have tails : ∀ taken, motive (list.drop taken) := by
    induction list with
    | nil => simpa using nil
    | cons x rest ih =>
      rintro (_ | taken)
      · exact cons x rest ih
      · exact ih taken
  exact tails 0

end Scan
