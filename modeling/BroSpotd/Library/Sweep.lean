import Mathlib.Data.List.Basic

/-! A loop over a list that rewrites each element in place, threads a state and ends
at the first exception. Elements past the exception keep their values. -/

namespace Sweep

variable {α β κ σ ε : Type*}

/-- What the loop body does to the element it stands on and to the threaded state. -/
abbrev Body (ε α σ : Type*) := α → σ → Except ε Unit × α × σ

def sweep (body : Body ε α σ) : List α → σ → Except ε Unit × List α × σ
  | [], s => (.ok (), [], s)
  | x :: rest, s =>
    match body x s with
    | (.error e, x, s) => (.error e, x :: rest, s)
    | (.ok (), x, s) =>
      let later := sweep body rest s
      (later.1, x :: later.2.1, later.2.2)

@[simp] theorem sweep_nil (body : Body ε α σ) (s : σ) : sweep body [] s = (.ok (), [], s) := rfl

theorem sweep_cons_error {body : Body ε α σ} {x x' : α} {s s' : σ} {e : ε}
    (raised : body x s = (.error e, x', s')) (rest : List α) :
    sweep body (x :: rest) s = (.error e, x' :: rest, s') := by simp [sweep,raised]

theorem sweep_cons_ok {body : Body ε α σ} {x x' : α} {s s' : σ}
    (returned : body x s = (.ok (), x', s')) (rest : List α) :
    sweep body (x :: rest) s = ((sweep body rest s').1, x' :: (sweep body rest s').2.1,
      (sweep body rest s').2.2) := by simp [sweep,returned]

/-- The body either raises or returns; every proof about a sweep splits on this. -/
theorem body_cases (body : Body ε α σ) (x : α) (s : σ) :
    (∃ e x' s', body x s = (.error e, x', s')) ∨ ∃ x' s', body x s = (.ok (), x', s') := by
  rcases h : body x s with ⟨_ | _, x', s'⟩
  · exact .inl ⟨_,_,_,rfl⟩
  · exact .inr ⟨_,_,rfl⟩

theorem sweep_append_error {body : Body ε α σ} {left left' : List α} {s s' : σ} {e : ε}
    (raised : sweep body left s = (.error e, left', s')) (right : List α) :
    sweep body (left ++ right) s = (.error e, left' ++ right, s') := by
  induction left generalizing s left' with
  | nil => simp at raised
  | cons x rest ih =>
    rcases body_cases body x s with ⟨e',x',t,h⟩ | ⟨x',t,h⟩
    · rw [sweep_cons_error h] at raised
      cases raised
      exact sweep_cons_error h _
    · rw [sweep_cons_ok h] at raised
      obtain ⟨result,tail⟩ := Prod.mk.inj raised
      obtain ⟨rfl,last⟩ := Prod.mk.inj tail
      rw [List.cons_append, sweep_cons_ok h, ih (Prod.ext result (Prod.ext rfl last))]
      rfl

theorem sweep_append_ok {body : Body ε α σ} {left left' : List α} {s s' : σ}
    (returned : sweep body left s = (.ok (), left', s')) (right : List α) :
    sweep body (left ++ right) s = ((sweep body right s').1, left' ++ (sweep body right s').2.1,
      (sweep body right s').2.2) := by
  induction left generalizing s left' with
  | nil => cases returned; rfl
  | cons x rest ih =>
    rcases body_cases body x s with ⟨e',x',t,h⟩ | ⟨x',t,h⟩
    · rw [sweep_cons_error h] at returned; cases returned
    · rw [sweep_cons_ok h] at returned
      obtain ⟨result,tail⟩ := Prod.mk.inj returned
      obtain ⟨rfl,last⟩ := Prod.mk.inj tail
      rw [List.cons_append, sweep_cons_ok h, ih (Prod.ext result (Prod.ext rfl last))]
      rfl

/-- What the body never changes on an element, the sweep never changes on the list. -/
theorem sweep_map (body : Body ε α σ) (key : α → κ) (keeps : ∀ x s, key (body x s).2.1 = key x)
    (list : List α) (s : σ) : (sweep body list s).2.1.map key = list.map key := by
  induction list generalizing s with
  | nil => rfl
  | cons x rest ih =>
    have same := keeps x s
    rcases body_cases body x s with ⟨e,x',t,h⟩ | ⟨x',t,h⟩
    · rw [h] at same; rw [sweep_cons_error h]; simp [same]
    · rw [h] at same; rw [sweep_cons_ok h]; simp [same,ih]

/-- A sweep that returns ran the body to its end on every element. -/
theorem sweep_ok_map (body : Body ε α σ) (advance : α → α)
    (advances : ∀ x s, (body x s).1 = .ok () → (body x s).2.1 = advance x)
    {list : List α} {s : σ} (returned : (sweep body list s).1 = .ok ()) :
    (sweep body list s).2.1 = list.map advance := by
  induction list generalizing s with
  | nil => rfl
  | cons x rest ih =>
    have moved := advances x s
    rcases body_cases body x s with ⟨e,x',t,h⟩ | ⟨x',t,h⟩
    · rw [sweep_cons_error h] at returned; cases returned
    · rw [h] at moved
      have head : x' = advance x := moved rfl
      rw [sweep_cons_ok h] at returned ⊢
      simp only [ih returned, head, List.map_cons]

theorem sweep_ok_forall (body : Body ε α σ) (property : α → Prop)
    (needs : ∀ x s, (body x s).1 = .ok () → property x)
    {list : List α} {s : σ} (returned : (sweep body list s).1 = .ok ()) : ∀ x ∈ list, property x := by
  induction list generalizing s with
  | nil => simp
  | cons x rest ih =>
    have first := needs x s
    rcases body_cases body x s with ⟨e,x',t,h⟩ | ⟨x',t,h⟩
    · rw [sweep_cons_error h] at returned; cases returned
    · rw [h] at first
      rw [sweep_cons_ok h] at returned
      simpa using ⟨first rfl, ih returned⟩

/-- The body carried along a projection of the elements. -/
def lift (view : β → α) (put : β → α → β) (body : Body ε α σ) : Body ε β σ := fun y s =>
  let out := body (view y) s
  (out.1, put y out.2.1, out.2.2)

/-- Sweeping the carriers is sweeping what they carry. -/
theorem sweep_lift (view : β → α) (put : β → α → β) (view_put : ∀ y x, view (put y x) = x)
    (body : Body ε α σ) (list : List β) (s : σ) :
    ((sweep (lift view put body) list s).1, (sweep (lift view put body) list s).2.1.map view,
      (sweep (lift view put body) list s).2.2) = sweep body (list.map view) s := by
  induction list generalizing s with
  | nil => rfl
  | cons y rest ih =>
    rcases body_cases body (view y) s with ⟨e,x',t,h⟩ | ⟨x',t,h⟩
    · have lifted : lift view put body y s = (.error e, put y x', t) := by simp [lift,h]
      rw [List.map_cons, sweep_cons_error h, sweep_cons_error lifted]
      simp [view_put]
    · have lifted : lift view put body y s = (.ok (), put y x', t) := by simp [lift,h]
      rw [List.map_cons, sweep_cons_ok h, sweep_cons_ok lifted, ← ih t]
      simp [view_put]

end Sweep
