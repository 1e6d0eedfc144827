import BroSpotd.Daemon

/-! The dispatcher as a family of lone monitors. `lone` is the abstract model: one SPOT
instance, built from a config and fed a list of values. A dispatcher run shows each
feature the values and resets that `view` selects, and nothing else reaches it. -/
namespace BroSpotd

variable {S R : Type}

/-- A SPOT instance fed the values in order. -/
def feed (spot : Spot S) (state : S) (values : List Double) : S :=
  values.foldl (fun s d => (spot.step s d).1) state

def lone (spot : Spot S) (config : SpotConfig) (values : List Double) : S := feed spot (spot.new config) values

theorem feed_append (spot : Spot S) (state : S) (left right : List Double) :
    feed spot state (left ++ right) = feed spot (feed spot state left) right := List.foldl_append

theorem config_lone {spot : Spot S} (keeps : spot.KeepsConfig) (config : SpotConfig)
    (values : List Double) : spot.config (lone spot config values) = config := by
  induction values using List.reverseRecOn with
  | nil => exact keeps.new config
  | append_singleton values d ih =>
    rw [lone, feed_append]
    exact (keeps.step _ d).trans ih

/-- The value of a field in a record, as the loop takes it. -/
def fieldValue (bro : Broccoli R) (record : R) (name : String) : Option Double :=
  (bro.field record name).map (fun value => ⟨value.payload⟩)

/-- What happens to one feature: a positive value, or a reset. -/
inductive Input where
  | value (d : Double)
  | reset
  deriving DecidableEq, Repr

def view (bro : Broccoli R) (name : String) : Daemon.Action R → Option Input
  | .record record => ((fieldValue bro record name).filter Binary64.isPositive).map .value
  | .reset feature _ => if feature = name then some .reset else none

/-- The values after the last reset. -/
def sinceReset (inputs : List Input) : List Double :=
  inputs.foldl (fun heard input => match input with | .value d => heard ++ [d] | .reset => []) []

/-- What one action adds to the values heard since the last reset. -/
def hear (bro : Broccoli R) (name : String) (heard : List Double) (a : Daemon.Action R) : List Double :=
  match view bro name a with
  | some (.value d) => heard ++ [d]
  | some .reset => []
  | none => heard

theorem run_hear (bro : Broccoli R) (name : String) (actions : List (Daemon.Action R)) :
    Runs.run (hear bro name) [] actions = sinceReset (actions.filterMap (view bro name)) := by
  have general : ∀ heard, Runs.run (hear bro name) heard actions =
      (actions.filterMap (view bro name)).foldl
        (fun heard input => match input with | .value d => heard ++ [d] | .reset => []) heard := by
    induction actions with
    | nil => intro heard; rfl
    | cons a rest ih =>
      intro heard
      rw [Runs.run_cons, ih, List.filterMap_cons]
      cases seen : view bro name a with
      | none => simp [hear,seen]
      | some input => cases input <;> simp [hear,seen]
  exact general []

/-- On a readable feature the loop feeds SPOT the field's value when it is positive. -/
theorem positiveValue_eq {bro : Broccoli R} {record : R} {f : MonitoredFeature S}
    (readable : (bro.bro_record_get_named_val record f._name f._bro_type).1.isSome = true) :
    positiveValue bro record f = (fieldValue bro record f._name).filter Binary64.isPositive := by
  obtain ⟨value,stored,_,returned⟩ := bro.lookup_some readable
  simp [positiveValue,readValue,fieldValue,stored,returned]

/-- Every step of a whole run does to the named feature what `hear` does to its monitor. -/
theorem lone_run {spot : Spot S} (keeps : spot.KeepsConfig) {bro : Broccoli R} {entries : List Entry}
    (distinct : (entries.map Entry.name).Nodup) {e : Entry} (member : e ∈ entries)
    {actions : List (Daemon.Action R)} (whole : Daemon.Whole spot bro (.start spot entries) actions) :
    ∃ f, (Daemon.run spot bro (.start spot entries) actions).dsp.lookup e.name = some f ∧
      f._spot = lone spot e.config (sinceReset (actions.filterMap (view bro e.name))) := by
  rw [← run_hear]
  refine name_tracked e.name (fun f heard => f._spot = lone spot e.config heard) (hear bro e.name)
    ?_ ?_ ?_ whole (by rw [names_start]; exact distinct) ⟨_, lookup_start spot distinct member, rfl⟩
  · intro f heard record named readable state
    simp only [observe, positiveValue_eq readable, named, hear, view]
    cases (fieldValue bro record e.name).filter Binary64.isPositive with
    | none => exact state
    | some v => simp [state,lone,feed]
  · intro f heard state
    have config : spot.config f._spot = e.config := by rw [state, config_lone keeps]
    simp [hear,view,Dispotcher.replacement,MonitoredFeature.new,MonitoredFeature.config,config,lone,feed]
  · intro f heard feature other state
    simpa [hear,view,other] using state

/-- The state of a feature after a whole run is that of a lone monitor fed its positive
values since its last reset, and so is the status reported for it. Two runs, of any two
dispatchers, that show a feature the same inputs leave it in the same state. -/
theorem dispatcher_refines_monitors (spot : Spot S) (keeps : spot.KeepsConfig) (bro : Broccoli R)
    (entries : List Entry) (distinct : (entries.map Entry.name).Nodup) (e : Entry)
    (member : e ∈ entries) (actions : List (Daemon.Action R))
    (whole : Daemon.Whole spot bro (.start spot entries) actions) :
    let d := Daemon.run spot bro (.start spot entries) actions
    let state := lone spot e.config (sinceReset (actions.filterMap (view bro e.name)))
    (d.dsp.lookup e.name).map MonitoredFeature._spot = some state ∧
    d.dsp.status spot e.name = .ok (spot.status state) ∧
    ∀ (others : List Entry) (e' : Entry) (actions' : List (Daemon.Action R)),
      (others.map Entry.name).Nodup → e' ∈ others → e'.name = e.name → e'.config = e.config →
      Daemon.Whole spot bro (.start spot others) actions' →
      actions'.filterMap (view bro e.name) = actions.filterMap (view bro e.name) →
      ((Daemon.run spot bro (.start spot others) actions').dsp.lookup e.name).map MonitoredFeature._spot =
        some state := by
  obtain ⟨f,found,spotState⟩ := lone_run keeps distinct member whole
  refine ⟨by simp [found,spotState], ?_, ?_⟩
  · simp [Dispotcher.status_eq,found,MonitoredFeature.status,spotState]
  · intro others e' actions' distinct' member' named config whole' same
    obtain ⟨f',found',spotState'⟩ := lone_run keeps distinct' member' whole'
    rw [named, config, same] at spotState'
    rw [named] at found'
    simp [found',spotState']

theorem monitors_refined_across_reset :
    let entries : List Entry := [⟨"mem", BRO_TYPE_DOUBLE, .shipped⟩, ⟨"pkt_lag", BRO_TYPE_INTERVAL, .shipped⟩]
    let record : List (String × BroVal) := [("mem", ⟨BRO_TYPE_DOUBLE, 0x4059000000000000⟩),
      ("pkt_lag", ⟨BRO_TYPE_INTERVAL, 0x3FF0000000000000⟩)]
    let d := Daemon.run (.returning 3) (Broccoli.ofFields (fun _ => true)) (.start (.returning 3) entries)
      [.record record, .reset "mem" none, .record record]
    (d.dsp.lookup "mem").map MonitoredFeature._spot = some (.shipped, [⟨0x4059000000000000⟩]) :=
  (dispatcher_refines_monitors (.returning 3) (Spot.returning_keepsConfig 3)
    (Broccoli.ofFields (fun _ => true))
    [⟨"mem", BRO_TYPE_DOUBLE, .shipped⟩, ⟨"pkt_lag", BRO_TYPE_INTERVAL, .shipped⟩] (by decide)
    ⟨"mem", BRO_TYPE_DOUBLE, .shipped⟩ (by decide)
    [.record [("mem", ⟨BRO_TYPE_DOUBLE, 0x4059000000000000⟩),
        ("pkt_lag", ⟨BRO_TYPE_INTERVAL, 0x3FF0000000000000⟩)], .reset "mem" none,
      .record [("mem", ⟨BRO_TYPE_DOUBLE, 0x4059000000000000⟩),
        ("pkt_lag", ⟨BRO_TYPE_INTERVAL, 0x3FF0000000000000⟩)]]
    ⟨rfl,rfl,rfl,trivial⟩).1

end BroSpotd
