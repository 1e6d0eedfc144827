import Mathlib.Data.List.Basic

/-! Actions that put items on a channel which may refuse an item. A refusal ends the action
with the error of the refused item. What was put through by then is what was due, which is
what a channel that accepts everything takes, as far as that item. -/
namespace Channel

variable {ε C ι ω : Type*}

/-- An action on a state, told which attempts the channel accepts; its effects stand also when
it ends with an error. -/
abbrev Act (ε C : Type*) := (Nat → Bool) → C → Except ε Unit × C

def all : Nat → Bool := fun _ => true

/-- The channel in the state: the attempts made on it and what was put through; `put` is what
of an item the other end gets. -/
structure View (C ι ω : Type*) where
  attempts : C → Nat
  sent : C → List ω
  put : ι → ω

def andThen (first second : Act ε C) : Act ε C := fun accepts c =>
  match first accepts c with
  | (.ok (), c) => second accepts c
  | (.error e, c) => (.error e, c)

/-- The attempts for these items, the first of them numbered `start`, are all accepted, or one
of them is the first that is not. -/
theorem accepted_or_refused (accepts : Nat → Bool) (start : Nat) (items : List ι) :
    (∀ n, start ≤ n → n < start + items.length → accepts n = true) ∨
    ∃ before item after, items = before ++ item :: after ∧
      (∀ n, start ≤ n → n < start + before.length → accepts n = true) ∧
      accepts (start + before.length) = false := by
  induction items generalizing start with
  | nil => exact .inl (fun n later within => absurd within (Nat.not_lt.mpr later))
  | cons item rest ih =>
    cases answer : accepts start with
    | false => exact .inr ⟨[], item, rest, rfl, fun n later within => absurd within (Nat.not_lt.mpr later), answer⟩
    | true =>
      rcases ih (start + 1) with accepted | ⟨before,refused,after,rfl,accepted,answer'⟩
      · refine .inl (fun n later within => ?_)
        rw [List.length_cons] at within
        by_cases first : n = start
        · exact first ▸ answer
        · exact accepted n (by omega) (by omega)
      · refine .inr ⟨item :: before, refused, after, rfl, fun n later within => ?_, ?_⟩
        · rw [List.length_cons] at within
          by_cases first : n = start
          · exact first ▸ answer
          · exact accepted n (by omega) (by omega)
        · rw [List.length_cons, Nat.add_comm before.length, ← Nat.add_assoc]
          exact answer'

variable (view : View C ι ω) (refusal : ι → ε → Prop)

/-- What refusals make of an action that would come to `full` and has these items due: nothing,
where all its attempts are accepted, else the end at the first that is not. -/
inductive Cut (accepts : Nat → Bool) (c : C) (due : List ι) (full cut : Except ε Unit × C) : Prop
  | whole (accepted : ∀ n, view.attempts c ≤ n → n < view.attempts c + due.length → accepts n = true)
      (same : cut = full)
  | refused (before : List ι) (item : ι) (after : List ι) (made : due = before ++ item :: after)
      (accepted : ∀ n, view.attempts c ≤ n → n < view.attempts c + before.length → accepts n = true)
      (refused : accepts (view.attempts c + before.length) = false)
      (raised : ∃ e, refusal item e ∧ cut.1 = .error e)
      (sent : view.sent cut.2 = view.sent c ++ before.map view.put)

/-- An action that puts these items through one after the other, and does nothing about a
refusal but end. -/
structure Honest (act : Act ε C) (c : C) (due : List ι) : Prop where
  attempts : view.attempts (act all c).2 = view.attempts c + due.length
  sent : view.sent (act all c).2 = view.sent c ++ due.map view.put
  cut : ∀ accepts, Cut view refusal accepts c due (act all c) (act accepts c)

variable {view refusal}

/-- An action that does not look at the channel and leaves it alone. -/
theorem honest_silent {act : Act ε C} {c : C} (blind : ∀ accepts, act accepts c = act all c)
    (attempts : view.attempts (act all c).2 = view.attempts c) (sent : view.sent (act all c).2 = view.sent c) :
    Honest view refusal act c [] where
  attempts := attempts
  sent := sent.trans (List.append_nil _).symm
  cut := fun accepts => .whole (fun _ later within => absurd within (Nat.not_lt.mpr later)) (blind accepts)

/-- One attempt. -/
theorem honest_send {act : Act ε C} {c : C} (item : ι)
    (through : ∀ accepts, accepts (view.attempts c) = true → act accepts c = act all c)
    (attempts : view.attempts (act all c).2 = view.attempts c + 1)
    (sent : view.sent (act all c).2 = view.sent c ++ [view.put item])
    (failed : ∀ accepts, accepts (view.attempts c) = false →
      (∃ e, refusal item e ∧ (act accepts c).1 = .error e) ∧ view.sent (act accepts c).2 = view.sent c) :
    Honest view refusal act c [item] where
  attempts := attempts
  sent := sent
  cut := by
    intro accepts
    cases answer : accepts (view.attempts c) with
    | true =>
      refine .whole (fun n later within => ?_) (through accepts answer)
      rw [List.length_singleton] at within
      have only : n = view.attempts c := by omega
      exact only ▸ answer
    | false =>
      obtain ⟨raised,kept⟩ := failed accepts answer
      refine .refused [] item [] rfl (fun n later within => absurd within (Nat.not_lt.mpr later)) answer raised ?_
      exact kept.trans (List.append_nil _).symm

/-- An action that starts with something silent. -/
theorem honest_after {act later : Act ε C} {c c' : C} {due : List ι} (honest : Honest view refusal later c' due)
    (same : ∀ accepts, act accepts c = later accepts c') (attempts : view.attempts c' = view.attempts c)
    (sent : view.sent c' = view.sent c) : Honest view refusal act c due := by
  refine ⟨?_, ?_, fun accepts => ?_⟩
  · rw [same, ← attempts]
    exact honest.attempts
  · rw [same, ← sent]
    exact honest.sent
  · rw [same, same]
    cases honest.cut accepts with
    | whole accepted alike => exact .whole (attempts ▸ accepted) alike
    | refused before item after made accepted refused raised put =>
      rw [attempts] at accepted refused
      rw [sent] at put
      exact .refused before item after made accepted refused raised put

theorem andThen_ok {first : Act ε C} {accepts : Nat → Bool} {c c' : C}
    (returned : first accepts c = (.ok (), c')) (second : Act ε C) :
    andThen first second accepts c = second accepts c' := by simp only [andThen, returned]

theorem andThen_error {first : Act ε C} {accepts : Nat → Bool} {c : C} {e : ε}
    (raised : (first accepts c).1 = .error e) (second : Act ε C) :
    andThen first second accepts c = (.error e, (first accepts c).2) := by
  rcases ran : first accepts c with ⟨e | _, c'⟩
  · simpa [andThen,ran] using raised
  · simp [ran] at raised

/-- Where the first raises, nothing more is due. -/
theorem honest_andThen_error {first second : Act ε C} {c : C} {due : List ι} {e : ε}
    (one : Honest view refusal first c due) (raises : (first all c).1 = .error e) :
    Honest view refusal (andThen first second) c due := by
  have ends : andThen first second all c = first all c := (andThen_error raises second).trans (raises ▸ rfl)
  refine ⟨by rw [ends]; exact one.attempts, by rw [ends]; exact one.sent, fun accepts => ?_⟩
  rw [ends]
  cases one.cut accepts with
  | whole accepted same =>
    have raised : (first accepts c).1 = .error e := by rw [same, raises]
    exact .whole accepted ((andThen_error raised second).trans (raised ▸ same))
  | refused before item after made accepted refused raised sent =>
    obtain ⟨e',expected,raised⟩ := raised
    have stops := andThen_error raised second
    exact .refused before item after made accepted refused ⟨e', expected, by rw [stops]⟩ (by rw [stops]; exact sent)

/-- Honest actions one after the other are an honest action; what is due is due in order. -/
theorem honest_andThen {first second : Act ε C} {c c' : C} {due later : List ι}
    (one : Honest view refusal first c due) (ran : first all c = (.ok (), c'))
    (two : Honest view refusal second c' later) : Honest view refusal (andThen first second) c (due ++ later) := by
  have goes_on := andThen_ok ran second
  have attempts : view.attempts c' = view.attempts c + due.length := by simpa only [ran] using one.attempts
  have sent : view.sent c' = view.sent c ++ due.map view.put := by simpa only [ran] using one.sent
  refine ⟨?_, ?_, fun accepts => ?_⟩
  · rw [goes_on, two.attempts, attempts, List.length_append, Nat.add_assoc]
  · rw [goes_on, two.sent, sent, List.map_append, List.append_assoc]
  · rw [goes_on]
    cases one.cut accepts with
    | whole accepted same =>
      rw [andThen_ok (same.trans ran) second]
      -- the attempts of the first, then those of the second
      have both : ∀ front : List ι,
          (∀ n, view.attempts c' ≤ n → n < view.attempts c' + front.length → accepts n = true) →
          ∀ n, view.attempts c ≤ n → n < view.attempts c + (due ++ front).length → accepts n = true := by
        intro front accepted' n after within
        rw [List.length_append] at within
        by_cases early : n < view.attempts c'
        · exact accepted n after (by omega)
        · exact accepted' n (by omega) (by omega)
      cases two.cut accepts with
      | whole accepted' same' => exact .whole (both later accepted') same'
      | refused before item after made accepted' refused raised put =>
        refine .refused (due ++ before) item after (by rw [made, List.append_assoc]) (both before accepted') ?_ raised ?_
        · rw [List.length_append, ← Nat.add_assoc, ← attempts]
          exact refused
        · rw [put, sent, List.map_append, List.append_assoc]
    | refused before item after made accepted refused raised put =>
      obtain ⟨e,expected,raised⟩ := raised
      have stops := andThen_error raised second
      rw [stops]
      refine .refused before item (after ++ later) ?_ accepted refused ⟨e, expected, rfl⟩ put
      rw [made, List.append_assoc, List.cons_append]

end Channel
