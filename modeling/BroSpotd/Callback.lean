import BroSpotd.Dispotcher
import BroSpotd.Library.Runs

/-! `callback`: one record goes through the feature list. The loop body has a closed form
(`visit_eq`) in terms of the value read, the observation it makes and the alarm it
raises; every result about records uses that form. The value is the one that `process` is
called with (`visit_processes`). -/
namespace BroSpotd

variable {S R : Type}

def lookupFailed : Exn := .runtime_error "Error when handling a recorded value"
def allocationFailed : Exn := .runtime_error "Could not allocate new event"

/-- The loop body. `d_ptr` is a `double *` into the record, so `*d_ptr` takes the pointed
bits as a double whatever their type. -/
def visit (spot : Spot S) (bro : Broccoli R) (record : R) (out_event : EventPtr)
    (f : MonitoredFeature S) (w : World) : Except Exn Unit × MonitoredFeature S × World :=
  let (d_ptr, type) := bro.bro_record_get_named_val record f._name f._bro_type
  let f := { f with _bro_type := type }
  match d_ptr with
  | none => (.error lookupFailed, f, w)
  | some bits =>
    let d : Double := ⟨bits⟩
    if d.isPositive then
      match f.process spot bro d out_event w with
      | (.error e, f, w) => (.error e, f, w)
      | (.ok anomalous, f, w) =>
        if anomalous then
          let heap := w.heap.bro_event_send out_event
          (.ok (), f, { w with heap := heap.bro_event_free out_event })
        else (.ok (), f, w)
    else (.ok (), f, w)

/-- The process around the Broccoli thread: its list of features and its statics. -/
structure Daemon (S : Type) where
  nb_events : Int32
  dsp : Dispotcher S
  world : World

/-- `out_event` starts as the null pointer and nothing in the loop assigns it. -/
def callback (spot : Spot S) (bro : Broccoli R) (record : R) (d : Daemon S) :
    Except Exn Unit × Daemon S :=
  let out_event : EventPtr := none
  let out := d.dsp._features.sweep (visit spot bro record out_event) d.world
  (out.1, { nb_events := d.nb_events + 1, dsp := ⟨out.2.1⟩, world := out.2.2 })

/-- The value the loop reads for a feature, none when the lookup yields NULL. -/
def readValue (bro : Broccoli R) (record : R) (f : MonitoredFeature S) : Option Double :=
  (bro.bro_record_get_named_val record f._name f._bro_type).1.map Binary64.mk

/-- What SPOT is fed: the values that pass `d > 0.`. -/
def positiveValue (bro : Broccoli R) (record : R) (f : MonitoredFeature S) : Option Double :=
  (readValue bro record f).filter Binary64.isPositive

/-- The feature after the loop body, event or not. -/
def observe (spot : Spot S) (bro : Broccoli R) (record : R) (f : MonitoredFeature S) : MonitoredFeature S where
  _spot := match positiveValue bro record f with
    | some d => (spot.step f._spot d).1
    | none => f._spot
  _name := f._name
  _bro_type := (bro.bro_record_get_named_val record f._name f._bro_type).2

/-- An anomaly as SPOT reports it: the feature it is about and its tail probability. -/
structure Alarm where
  feature : String
  probability : Double
  deriving DecidableEq, Repr

/-- Step 1 is the upper tail, -1 the lower, both judged in the state after the step. -/
def tail? (spot : Spot S) (state : S) (d : Double) : Option Double :=
  let stepped := spot.step state d
  if stepped.2 = 1 then some (spot.up_probability stepped.1 d)
  else if stepped.2 = -1 then some (spot.down_probability stepped.1 d)
  else none

def alarm? (spot : Spot S) (bro : Broccoli R) (record : R) (f : MonitoredFeature S) : Option Alarm :=
  (positiveValue bro record f).bind (fun d => (tail? spot f._spot d).map (⟨f._name, ·⟩))

/-- The event that `process` builds for an alarm. -/
def spotAnomaly (req_id : Int32) (alarm : Alarm) : BroEvent :=
  ⟨"spot_anomaly", [.int req_id, .string alarm.feature, .double alarm.probability]⟩

/-- The world after an event was built and `process` returned true. -/
def World.build (w : World) (alarm : Alarm) : World where
  req_id := w.req_id + 1
  heap :=
    { w.heap with
      events := w.heap.events ++ [spotAnomaly w.req_id alarm]
      live := w.heap.live ++ [w.heap.events.length]
      attempts := w.heap.attempts + 1
      calls := w.heap.calls ++ [.new w.heap.events.length] }

/-- The world after `bro_event_new` returned null. -/
def World.refuse (w : World) : World := { w with heap := { w.heap with attempts := w.heap.attempts + 1 } }

/-- The world after an alarm went through the loop body: built, then the null pointer
sent and freed. -/
def World.lose (w : World) (alarm : Alarm) : World :=
  let built := w.build alarm
  { built with heap := { built.heap with calls := built.heap.calls ++ [.send none, .free none] } }

@[simp] theorem lose_attempts (w : World) (alarm : Alarm) :
    (w.lose alarm).heap.attempts = w.heap.attempts + 1 := rfl

theorem process_eq (spot : Spot S) (bro : Broccoli R) (f : MonitoredFeature S) (d : Double)
    (out_event : EventPtr) (w : World) :
    f.process spot bro d out_event w =
      let stepped := { f with _spot := (spot.step f._spot d).1 }
      match tail? spot f._spot d with
      | none => (.ok false, stepped, w)
      | some p =>
        if bro.event_allocated w.heap.attempts then (.ok true, stepped, w.build ⟨f._name,p⟩)
        else (.error allocationFailed, stepped, w.refuse) := by
  by_cases up : (spot.step f._spot d).2 = 1
  · by_cases allocated : bro.event_allocated w.heap.attempts = true <;>
      simp [MonitoredFeature.process, abs_eq_one_iff, tail?, up, EventHeap.bro_event_new, allocated,
        EventHeap.bro_event_add_val, World.build, World.refuse, spotAnomaly, allocationFailed]
  · by_cases down : (spot.step f._spot d).2 = -1
    · by_cases allocated : bro.event_allocated w.heap.attempts = true <;>
        simp [MonitoredFeature.process, abs_eq_one_iff, tail?, down, EventHeap.bro_event_new, allocated,
          EventHeap.bro_event_add_val, World.build, World.refuse, spotAnomaly, allocationFailed]
    · simp [MonitoredFeature.process, abs_eq_one_iff, tail?, up, down]

/-- The value that passes the loop's test is the one that `process` is called with. -/
theorem visit_processes (spot : Spot S) {bro : Broccoli R} {record : R} {f : MonitoredFeature S} {d : Double}
    (passes : positiveValue bro record f = some d) (out_event : EventPtr) (w : World) :
    visit spot bro record out_event f w =
      match MonitoredFeature.process spot bro
        { f with _bro_type := (bro.bro_record_get_named_val record f._name f._bro_type).2 } d out_event w with
      | (.error e, f, w) => (.error e, f, w)
      | (.ok anomalous, f, w) =>
        if anomalous then
          (.ok (), f, { w with heap := (w.heap.bro_event_send out_event).bro_event_free out_event })
        else (.ok (), f, w) := by
  rcases h : bro.bro_record_get_named_val record f._name f._bro_type with ⟨_ | bits, type⟩
  · simp [positiveValue,readValue,h] at passes
  · obtain ⟨rfl,positive⟩ : (⟨bits⟩ : Double) = d ∧ d.isPositive = true := by
      simpa [positiveValue,readValue,h,Option.filter_eq_some_iff] using passes
    simp only [visit, h, positive, if_true]

/-- Without such a value `process` is not called. -/
theorem visit_passes_by (spot : Spot S) {bro : Broccoli R} {record : R} {f : MonitoredFeature S}
    (skips : positiveValue bro record f = none) (out_event : EventPtr) (w : World) :
    visit spot bro record out_event f w =
      (if (readValue bro record f).isSome then .ok () else .error lookupFailed,
        { f with _bro_type := (bro.bro_record_get_named_val record f._name f._bro_type).2 }, w) := by
  rcases h : bro.bro_record_get_named_val record f._name f._bro_type with ⟨_ | bits, type⟩
  · simp [visit,readValue,h]
  · have negative : (⟨bits⟩ : Double).isPositive = false := by
      simpa [positiveValue,readValue,h] using skips
    simp [visit,readValue,h,negative]

/-- The closed form of the loop body with the pointer `callback` gives it. -/
theorem visit_eq (spot : Spot S) (bro : Broccoli R) (record : R) (f : MonitoredFeature S) (w : World) :
    visit spot bro record none f w =
      match readValue bro record f with
      | none => (.error lookupFailed, observe spot bro record f, w)
      | some _ =>
        match alarm? spot bro record f with
        | none => (.ok (), observe spot bro record f, w)
        | some alarm =>
          if bro.event_allocated w.heap.attempts then (.ok (), observe spot bro record f, w.lose alarm)
          else (.error allocationFailed, observe spot bro record f, w.refuse) := by
  cases passes : positiveValue bro record f with
  | none =>
    rw [visit_passes_by spot passes]
    cases read : readValue bro record f with
    | none => simp [observe,passes]
    | some d => simp [observe,alarm?,passes]
  | some d =>
    obtain ⟨read,_⟩ := Option.filter_eq_some_iff.mp passes
    rw [visit_processes spot passes, read, process_eq]
    simp only [alarm?, observe, passes, Option.bind_some]
    cases tail? spot f._spot d with
    | none => simp
    | some p =>
      by_cases allocated : bro.event_allocated w.heap.attempts = true <;>
        simp [allocated,World.lose,World.build,EventHeap.bro_event_send,EventHeap.bro_event_free]

end BroSpotd
