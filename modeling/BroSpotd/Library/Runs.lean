import Mathlib.Data.List.Basic

/-! Finite runs of a deterministic machine: step lemmas become run lemmas here once.
`Along` states a guard on every step of a run, each judged in the state before it. -/
namespace Runs

variable {σ τ ι ω : Type*}

def run (step : σ → ι → σ) : σ → List ι → σ
  | s, [] => s
  | s, input :: rest => run step (step s input) rest

/-- Every step of the run meets the guard in the state it starts from. -/
def Along (step : σ → ι → σ) (guard : σ → ι → Prop) : σ → List ι → Prop
  | _, [] => True
  | s, input :: rest => guard s input ∧ Along step guard (step s input) rest

/-- What the steps of a run put out, in order. -/
def output (step : σ → ι → σ) (emit : σ → ι → List ω) : σ → List ι → List ω
  | _, [] => []
  | s, input :: rest => emit s input ++ output step emit (step s input) rest

@[simp] theorem run_nil (step : σ → ι → σ) (s : σ) : run step s [] = s := rfl
@[simp] theorem run_cons (step : σ → ι → σ) (s : σ) (input : ι) (rest : List ι) :
    run step s (input :: rest) = run step (step s input) rest := rfl
@[simp] theorem along_nil (step : σ → ι → σ) (guard : σ → ι → Prop) (s : σ) :
    Along step guard s [] := trivial
@[simp] theorem along_cons (step : σ → ι → σ) (guard : σ → ι → Prop) (s : σ) (input : ι)
    (rest : List ι) : Along step guard s (input :: rest) ↔
      guard s input ∧ Along step guard (step s input) rest := Iff.rfl

instance decidableAlong (step : σ → ι → σ) (guard : σ → ι → Prop) [∀ s input, Decidable (guard s input)] :
    (s : σ) → (inputs : List ι) → Decidable (Along step guard s inputs)
  | _, [] => isTrue trivial
  | s, input :: rest =>
    have := decidableAlong step guard (step s input) rest
    inferInstanceAs (Decidable (_ ∧ _))

theorem Along.imp {step : σ → ι → σ} {guard weaker : σ → ι → Prop} {s : σ} {inputs : List ι}
    (along : Along step guard s inputs) (implies : ∀ s input, guard s input → weaker s input) :
    Along step weaker s inputs := by
  induction inputs generalizing s with
  | nil => trivial
  | cons input rest ih => exact ⟨implies _ _ along.1, ih along.2⟩

theorem along_congr {step : σ → ι → σ} {guard other : σ → ι → Prop}
    (same : ∀ s input, guard s input ↔ other s input) (s : σ) (inputs : List ι) :
    Along step guard s inputs ↔ Along step other s inputs :=
  ⟨fun along => along.imp (fun s input => (same s input).mp),
    fun along => along.imp (fun s input => (same s input).mpr)⟩

/-- One guarded step keeps the property, hence so does a guarded run. -/
theorem invariant_along (step : σ → ι → σ) (guard : σ → ι → Prop) (property : σ → Prop)
    (preserved : ∀ s input, property s → guard s input → property (step s input))
    {s : σ} {inputs : List ι} (along : Along step guard s inputs) (start : property s) :
    property (run step s inputs) := by
  induction inputs generalizing s with
  | nil => exact start
  | cons input rest ih => exact ih along.2 (preserved _ _ start along.1)

theorem invariant (step : σ → ι → σ) (property : σ → Prop)
    (preserved : ∀ s input, property s → property (step s input))
    (s : σ) (inputs : List ι) (start : property s) : property (run step s inputs) := by
  induction inputs generalizing s with
  | nil => exact start
  | cons input rest ih => exact ih _ (preserved _ _ start)

/-- Simulation: related states stay related when both sides take the same guarded input. -/
theorem simulation_along (step : σ → ι → σ) (abstract : τ → ι → τ) (guard : σ → ι → Prop)
    (related : σ → τ → Prop)
    (simulates : ∀ s t input, related s t → guard s input → related (step s input) (abstract t input))
    {s : σ} {t : τ} {inputs : List ι} (along : Along step guard s inputs) (start : related s t) :
    related (run step s inputs) (run abstract t inputs) := by
  induction inputs generalizing s t with
  | nil => exact start
  | cons input rest ih => exact ih along.2 (simulates _ _ _ start along.1)

/-- A run that comes to have a property takes a step that brings it. -/
theorem first_step (step : σ → ι → σ) (property : σ → Prop) {s : σ} {inputs : List ι} (start : ¬ property s)
    (final : property (run step s inputs)) : ∃ before input after, inputs = before ++ input :: after ∧
      ¬ property (run step s before) ∧ property (step (run step s before) input) := by
  induction inputs generalizing s with
  | nil => exact absurd final start
  | cons input rest ih =>
    by_cases now : property (step s input)
    · exact ⟨[], input, rest, rfl, start, now⟩
    · obtain ⟨before,later,after,rfl,lacks,brings⟩ := ih now final
      exact ⟨input :: before, later, after, rfl, lacks, brings⟩

theorem run_append (step : σ → ι → σ) (s : σ) (inputs more : List ι) :
    run step s (inputs ++ more) = run step (run step s inputs) more := by
  induction inputs generalizing s with
  | nil => rfl
  | cons input rest ih => exact ih (step s input)

theorem along_append {step : σ → ι → σ} {guard : σ → ι → Prop} {s : σ} {inputs more : List ι}
    (first : Along step guard s inputs) (later : Along step guard (run step s inputs) more) :
    Along step guard s (inputs ++ more) := by
  induction inputs generalizing s with
  | nil => exact later
  | cons input rest ih => exact ⟨first.1, ih first.2 later⟩

/-- Simulation where the other machine takes what a step puts out: no step, one or several,
each of them meeting a guard of its own. -/
theorem simulation_output (step : σ → ι → σ) (emit : σ → ι → List ω) (abstract : τ → ω → τ)
    (guard : σ → ι → Prop) (meets : τ → ω → Prop) (related : σ → τ → Prop)
    (simulates : ∀ s t input, related s t → guard s input →
      related (step s input) (run abstract t (emit s input)) ∧ Along abstract meets t (emit s input))
    {s : σ} {t : τ} {inputs : List ι} (along : Along step guard s inputs) (start : related s t) :
    related (run step s inputs) (run abstract t (output step emit s inputs)) ∧
    Along abstract meets t (output step emit s inputs) := by
  induction inputs generalizing s t with
  | nil => exact ⟨start,trivial⟩
  | cons input rest ih =>
    obtain ⟨one,first⟩ := simulates s t input start along.1
    obtain ⟨all,later⟩ := ih along.2 one
    rw [output, run_append]
    exact ⟨all, along_append first later⟩

/-- Where every step puts out what it takes in, early or late, a run does so but for what is
still held at its end. -/
theorem output_balance (step : σ → ι → σ) (emit taken : σ → ι → List ω) (held : σ → List ω)
    (guard : σ → ι → Prop)
    (balanced : ∀ s input, guard s input → emit s input ++ held (step s input) = held s ++ taken s input)
    {s : σ} {inputs : List ι} (along : Along step guard s inputs) :
    output step emit s inputs ++ held (run step s inputs) = held s ++ output step taken s inputs := by
  induction inputs generalizing s with
  | nil => simp [output]
  | cons input rest ih =>
    rw [output, output, run_cons, List.append_assoc, ih along.2, ← List.append_assoc,
      balanced s input along.1, List.append_assoc]

theorem filterMap_output {υ : Type*} (step : σ → ι → σ) (emit : σ → ι → List ω) (view : ω → Option υ)
    (s : σ) (inputs : List ι) : (output step emit s inputs).filterMap view =
      output step (fun s input => (emit s input).filterMap view) s inputs := by
  induction inputs generalizing s with
  | nil => rfl
  | cons input rest ih => simp only [output, List.filterMap_append, ih]

/-- An output that does not depend on the states. -/
theorem output_filterMap (step : σ → ι → σ) (view : ι → Option ω) (s : σ) (inputs : List ι) :
    output step (fun _ input => (view input).toList) s inputs = inputs.filterMap view := by
  induction inputs generalizing s with
  | nil => rfl
  | cons input rest ih => cases seen : view input <;> simp [output,ih,seen]

/-- What each step extends by its output, a run from the empty log extends to its whole output. -/
theorem related_output (step : σ → ι → σ) (emit : σ → ι → List ω) (related : σ → List ω → Prop)
    (extended : ∀ s log input, related s log → related (step s input) (log ++ emit s input))
    {s : σ} (inputs : List ι) (start : related s []) : related (run step s inputs) (output step emit s inputs) := by
  have general : ∀ inputs s log, related s log →
      related (run step s inputs) (log ++ output step emit s inputs) := by
    intro inputs
    induction inputs with
    | nil => intro s log start; simpa [output] using start
    | cons input rest ih =>
      intro s log start
      rw [output, ← List.append_assoc]
      exact ih _ _ (extended s log input start)
  simpa using general inputs s [] start

end Runs
