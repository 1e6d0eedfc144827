import BroSpotd.Callback

/-! Runs of the daemon: whole `callback` executions and whole `reset` calls in any order.
An execution that an exception cuts short leaves what it did and the run goes on. -/
namespace BroSpotd

variable {S R : Type}

/-- The arguments of one `_features.emplace_back`. -/
structure Entry where
  name : String
  bro_type : Int32
  config : SpotConfig
  deriving DecidableEq, Repr

def Entry.build (spot : Spot S) (e : Entry) : MonitoredFeature S := .new spot e.name e.bro_type e.config

namespace Daemon

def start (spot : Spot S) (entries : List Entry) : Daemon S :=
  ⟨0, Dispotcher.ofFeatures (entries.map (Entry.build spot)), World.initial⟩

inductive Action (R : Type) where
  | record (record : R)
  | reset (feature : String) (fault : Option Exn)

def step (spot : Spot S) (bro : Broccoli R) (d : Daemon S) : Action R → Except Exn Unit × Daemon S
  | .record record => callback spot bro record d
  | .reset feature fault =>
    let out := d.dsp.reset spot fault feature
    (out.1, { d with dsp := out.2 })

def next (spot : Spot S) (bro : Broccoli R) (d : Daemon S) (a : Action R) : Daemon S :=
  (step spot bro d a).2

def run (spot : Spot S) (bro : Broccoli R) (d : Daemon S) (actions : List (Action R)) : Daemon S :=
  Runs.run (next spot bro) d actions

/-- A record is handled to the end of the list; a reset builds its replacement. -/
def Completes (spot : Spot S) (bro : Broccoli R) (d : Daemon S) : Action R → Prop
  | .record record => (callback spot bro record d).1 = .ok ()
  | .reset _ fault => fault = none

/-- Every step of the run completes; `whole_iff_supplied` says for what records. -/
def Whole (spot : Spot S) (bro : Broccoli R) (d : Daemon S) (actions : List (Action R)) : Prop :=
  Runs.Along (next spot bro) (Completes spot bro) d actions

end Daemon

/-- The names of the entries are the names of the features at start-up. -/
@[simp] theorem names_start (spot : Spot S) (entries : List Entry) :
    (Daemon.start spot entries).dsp.names = entries.map Entry.name := by
  simp [Daemon.start,Dispotcher.names,Entry.build,MonitoredFeature.new,Function.comp_def]

theorem lookup_start (spot : Spot S) {entries : List Entry} (distinct : (entries.map Entry.name).Nodup)
    {e : Entry} (member : e ∈ entries) :
    (Daemon.start spot entries).dsp.lookup e.name = some (e.build spot) := by
  have named : (Daemon.start spot entries).dsp.names.Nodup := by rw [names_start]; exact distinct
  apply Keyed.find_of_mem MonitoredFeature._name named (x := e.build spot)
  rw [Daemon.start, Dispotcher.features_ofFeatures]
  exact List.mem_map_of_mem member

/-- A callback is a sweep of the features. -/
theorem callback_sweep (spot : Spot S) (bro : Broccoli R) (record : R) (d : Daemon S) :
    ((callback spot bro record d).1, (callback spot bro record d).2.dsp.features,
      (callback spot bro record d).2.world) =
      Sweep.sweep (visit spot bro record none) d.dsp.features d.world :=
  NodeList.values_sweep _ _ _

theorem callback_result (spot : Spot S) (bro : Broccoli R) (record : R) (d : Daemon S) :
    (callback spot bro record d).1 =
      (Sweep.sweep (visit spot bro record none) d.dsp.features d.world).1 :=
  congrArg Prod.fst (callback_sweep spot bro record d)

theorem callback_features (spot : Spot S) (bro : Broccoli R) (record : R) (d : Daemon S) :
    (callback spot bro record d).2.dsp.features =
      (Sweep.sweep (visit spot bro record none) d.dsp.features d.world).2.1 :=
  congrArg (fun out => out.2.1) (callback_sweep spot bro record d)

theorem callback_world (spot : Spot S) (bro : Broccoli R) (record : R) (d : Daemon S) :
    (callback spot bro record d).2.world =
      (Sweep.sweep (visit spot bro record none) d.dsp.features d.world).2.2 :=
  congrArg (fun out => out.2.2) (callback_sweep spot bro record d)

/-- Whatever happens to an observation, the loop body makes it on the feature. -/
theorem visit_feature (spot : Spot S) (bro : Broccoli R) (record : R) (f : MonitoredFeature S)
    (w : World) : (visit spot bro record none f w).2.1 = observe spot bro record f := by
  rw [visit_eq]
  split
  · rfl
  · split
    · rfl
    · split <;> rfl

theorem visit_readable {spot : Spot S} {bro : Broccoli R} {record : R} {f : MonitoredFeature S}
    {w : World} (returned : (visit spot bro record none f w).1 = .ok ()) :
    (bro.bro_record_get_named_val record f._name f._bro_type).1.isSome = true := by
  rw [visit_eq] at returned
  cases h : (bro.bro_record_get_named_val record f._name f._bro_type).1 with
  | none => simp [readValue,h] at returned
  | some bits => rfl

/-- A callback that returns has observed every feature. -/
theorem callback_ok_features {spot : Spot S} {bro : Broccoli R} {record : R} {d : Daemon S}
    (returned : (callback spot bro record d).1 = .ok ()) :
    (callback spot bro record d).2.dsp.features = d.dsp.features.map (observe spot bro record) := by
  rw [callback_result] at returned
  rw [callback_features]
  exact Sweep.sweep_ok_map _ _ (fun f w _ => visit_feature spot bro record f w) returned

/-- A callback that returns has read every feature. -/
theorem callback_ok_readable {spot : Spot S} {bro : Broccoli R} {record : R} {d : Daemon S}
    (returned : (callback spot bro record d).1 = .ok ()) :
    ∀ f ∈ d.dsp.features, (bro.bro_record_get_named_val record f._name f._bro_type).1.isSome = true := by
  rw [callback_result] at returned
  exact Sweep.sweep_ok_forall _ _ (fun f w => visit_readable) returned

/-- What an observation leaves as it is, a sweep leaves as it is on every feature. -/
theorem sweep_view {β : Type} (view : MonitoredFeature S → β) (spot : Spot S) (bro : Broccoli R) (record : R)
    (same : ∀ f, view (observe spot bro record f) = view f) (list : List (MonitoredFeature S)) (w : World) :
    (Sweep.sweep (visit spot bro record none) list w).2.1.map view = list.map view := by
  apply Sweep.sweep_map
  intro f w
  rw [visit_feature, same]

theorem sweep_names (spot : Spot S) (bro : Broccoli R) (record : R) (list : List (MonitoredFeature S))
    (w : World) : (Sweep.sweep (visit spot bro record none) list w).2.1.map MonitoredFeature._name =
      list.map MonitoredFeature._name :=
  sweep_view MonitoredFeature._name spot bro record (fun _ => rfl) list w

theorem callback_names (spot : Spot S) (bro : Broccoli R) (record : R) (d : Daemon S) :
    (callback spot bro record d).2.dsp.names = d.dsp.names := by
  rw [Dispotcher.names, callback_features]
  exact sweep_names spot bro record d.dsp.features d.world

/-- A completed step permutes the names. -/
theorem next_names {spot : Spot S} {bro : Broccoli R} {d : Daemon S} {a : Daemon.Action R}
    (completes : Daemon.Completes spot bro d a) : (Daemon.next spot bro d a).dsp.names.Perm d.dsp.names := by
  cases a with
  | record record => exact (callback_names spot bro record d) ▸ List.Perm.refl _
  | reset feature fault =>
    cases completes
    exact Dispotcher.reset_names spot feature d.dsp

theorem run_names {spot : Spot S} {bro : Broccoli R} {d : Daemon S} {actions : List (Daemon.Action R)}
    (whole : Daemon.Whole spot bro d actions) :
    (Daemon.run spot bro d actions).dsp.names.Perm d.dsp.names :=
  Runs.invariant_along _ _ (fun later : Daemon S => later.dsp.names.Perm d.dsp.names)
    (fun _ _ kept completes => (next_names completes).trans kept) whole (.refl _)

theorem lookup_callback {spot : Spot S} {bro : Broccoli R} {record : R} {d : Daemon S}
    (returned : (callback spot bro record d).1 = .ok ()) (name : String) :
    (callback spot bro record d).2.dsp.lookup name = (d.dsp.lookup name).map (observe spot bro record) := by
  rw [Dispotcher.lookup, callback_ok_features returned]
  exact Keyed.find_map _ (observe spot bro record) (fun _ => rfl) _ _

/-- One name through a whole run: what records and its own resets make of its feature is
all that reaches it. -/
theorem name_tracked {τ : Type} {spot : Spot S} {bro : Broccoli R} (name : String)
    (related : MonitoredFeature S → τ → Prop) (abstract : τ → Daemon.Action R → τ)
    (observed : ∀ f t record, f._name = name →
      (bro.bro_record_get_named_val record f._name f._bro_type).1.isSome = true →
      related f t → related (observe spot bro record f) (abstract t (.record record)))
    (replaced : ∀ f t, related f t → related (Dispotcher.replacement spot f) (abstract t (.reset name none)))
    (passed : ∀ f t feature, feature ≠ name → related f t → related f (abstract t (.reset feature none)))
    {d : Daemon S} {t : τ} {actions : List (Daemon.Action R)} (whole : Daemon.Whole spot bro d actions)
    (distinct : d.dsp.names.Nodup) (start : ∃ f, d.dsp.lookup name = some f ∧ related f t) :
    ∃ f, (Daemon.run spot bro d actions).dsp.lookup name = some f ∧
      related f (Runs.run abstract t actions) := by
  let Tracks (d : Daemon S) (t : τ) : Prop :=
    d.dsp.names.Nodup ∧ ∃ f, d.dsp.lookup name = some f ∧ related f t
  refine (Runs.simulation_along _ abstract _ Tracks ?_ whole ⟨distinct,start⟩).2
  rintro d t a ⟨distinct,f,found,holds⟩ completes
  refine ⟨(next_names completes).nodup_iff.mpr distinct, ?_⟩
  cases a with
  | record record =>
    have readable := callback_ok_readable completes f (Keyed.find_mem _ found)
    refine ⟨observe spot bro record f, ?_, observed f t record (Keyed.find_key _ found) readable holds⟩
    exact (lookup_callback completes name).trans (by rw [found]; rfl)
  | reset feature fault =>
    cases completes
    by_cases same : feature = name
    · subst same
      refine ⟨Dispotcher.replacement spot f, ?_, replaced f t holds⟩
      exact (Dispotcher.lookup_reset_same spot distinct).trans (by rw [found]; rfl)
    · refine ⟨f, ?_, passed f t feature same holds⟩
      exact (Dispotcher.lookup_reset_other spot (Ne.symm same) d.dsp).trans found

end BroSpotd
