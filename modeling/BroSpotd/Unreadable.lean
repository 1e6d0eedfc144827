import BroSpotd.Ledger

/-! A lookup that fails ends the loop by an exception. The features before it are treated
as if the unreadable ones were not in the list; it and those behind it get nothing. -/
namespace BroSpotd

variable {S R : Type}

/-- The same daemon with the features that this record cannot serve taken off the list. -/
def Daemon.readableOnly (bro : Broccoli R) (record : R) (d : Daemon S) : Daemon S :=
  { d with dsp := .ofFeatures (d.dsp.features.filter (fun f => (readValue bro record f).isSome)) }

/-- The name and probability that an event carries. -/
def alarmOf (event : BroEvent) : Option Alarm :=
  match event.vals with
  | [.int _, .string feature, .double probability] => some ⟨feature,probability⟩
  | _ => none

/-- The anomalies of one feature among the events built between two states. -/
def anomaliesOf (name : String) (before after : World) : List Alarm :=
  ((after.heap.events.drop before.heap.events.length).filterMap alarmOf).filter (fun a => a.feature = name)

def spotOf (d : Daemon S) (name : String) : Option S := (d.dsp.lookup name).map MonitoredFeature._spot

theorem events_losses (alarms : List Alarm) (w : World) :
    ∃ more, (alarms.foldl World.lose w).heap.events = w.heap.events ++ more ∧
      more.filterMap alarmOf = alarms := by
  induction alarms generalizing w with
  | nil => exact ⟨[],by simp,rfl⟩
  | cons alarm rest ih =>
    obtain ⟨more,events,alarms⟩ := ih (w.lose alarm)
    refine ⟨spotAnomaly w.req_id alarm :: more, ?_, ?_⟩
    · rw [List.foldl_cons, events]
      simp [World.lose,World.build]
    · simp [alarmOf,spotAnomaly,alarms]

/-- The events of a callback carry the alarms that the ledger gives it. -/
theorem callback_anomaliesOf (spot : Spot S) (bro : Broccoli R) (record : R) (d : Daemon S) (name : String) :
    anomaliesOf name d.world (callback spot bro record d).2.world =
      (builtAlarms spot bro record d.dsp.features d.world.heap.attempts).filter
        (fun a => a.feature = name) := by
  obtain ⟨more,events,alarms⟩ :=
    events_losses (builtAlarms spot bro record d.dsp.features d.world.heap.attempts) d.world
  rw [callback_world, anomaliesOf]
  rcases sweep_world spot bro record d.dsp.features d.world with ends | ends
  · rw [ends, events, List.drop_left, alarms]
  · rw [ends]
    simp only [World.refuse]
    rw [events, List.drop_left, alarms]

/-- The alarms of a list are those of its front and, where that is passed, of its back. -/
theorem builtAlarms_append (spot : Spot S) (bro : Broccoli R) (record : R)
    (front back : List (MonitoredFeature S)) (attempts : Nat) :
    ∃ more, builtAlarms spot bro record (front ++ back) attempts =
        builtAlarms spot bro record front attempts ++ more ∧
      (more = [] ∨ ∃ later, more = builtAlarms spot bro record back later) := by
  induction front generalizing attempts with
  | nil => exact ⟨_,rfl,.inr ⟨attempts,rfl⟩⟩
  | cons f rest ih =>
    rw [List.cons_append, builtAlarms_cons, builtAlarms_cons]
    by_cases passes : clears spot bro record attempts f = true
    · obtain ⟨more,same,origin⟩ := ih (attempts + (alarm? spot bro record f).toList.length)
      exact ⟨more, by rw [if_pos passes, if_pos passes, same, List.append_assoc], origin⟩
    · exact ⟨[], by simp [passes], .inl rfl⟩

theorem builtAlarms_names {spot : Spot S} {bro : Broccoli R} {record : R}
    {list : List (MonitoredFeature S)} {attempts : Nat} {alarm : Alarm}
    (member : alarm ∈ builtAlarms spot bro record list attempts) :
    alarm.feature ∈ list.map MonitoredFeature._name := by
  obtain ⟨i,_,built⟩ := List.mem_filterMap.mp member
  simp only [builtAt] at built
  split at built
  · obtain ⟨f,standing,raised⟩ := Option.bind_eq_some_iff.mp built
    obtain ⟨_,_,_,named,_⟩ := (alarm?_eq_some_iff ..).mp raised
    rw [named]
    exact List.mem_map_of_mem (List.mem_of_getElem? standing)
  · cases built

/-- Nothing is built at or behind a feature that cannot be read. -/
theorem builtAlarms_unreadable {spot : Spot S} {bro : Broccoli R} {record : R} {f : MonitoredFeature S}
    (fails : readValue bro record f = none) (back : List (MonitoredFeature S)) (attempts : Nat) :
    builtAlarms spot bro record (f :: back) attempts = [] := by
  simp [builtAlarms_cons,clears,fails,alarm?_unreadable fails]

/-- For a name of the front only, the back of the list adds no alarm. -/
theorem front_alarms {spot : Spot S} {bro : Broccoli R} {record : R} {front back : List (MonitoredFeature S)}
    {name : String} (elsewhere : name ∉ back.map MonitoredFeature._name) (attempts : Nat) :
    (builtAlarms spot bro record (front ++ back) attempts).filter (fun a => a.feature = name) =
      (builtAlarms spot bro record front attempts).filter (fun a => a.feature = name) := by
  obtain ⟨more,same,origin⟩ := builtAlarms_append spot bro record front back attempts
  have unnamed : more.filter (fun a => a.feature = name) = [] := by
    rw [List.filter_eq_nil_iff]
    intro alarm member named
    rw [decide_eq_true_eq] at named
    rcases origin with rfl | ⟨later,rfl⟩
    · simp at member
    · exact elsewhere (named ▸ builtAlarms_names member)
  rw [same, List.filter_append, unnamed, List.append_nil]

/-- A sweep treats the front of a list alike whatever the back is. -/
theorem sweep_front (spot : Spot S) (bro : Broccoli R) (record : R) (front back : List (MonitoredFeature S))
    (w : World) : ∃ later,
    (Sweep.sweep (visit spot bro record none) (front ++ back) w).2.1 =
      (Sweep.sweep (visit spot bro record none) front w).2.1 ++ later ∧
    (later = back ∨ ∃ w', later = (Sweep.sweep (visit spot bro record none) back w').2.1) := by
  rcases swept : Sweep.sweep (visit spot bro record none) front w with ⟨_ | _, front', w'⟩
  · exact ⟨back, by rw [Sweep.sweep_append_error swept], .inl rfl⟩
  · exact ⟨_, by rw [Sweep.sweep_append_ok swept], .inr ⟨w',rfl⟩⟩

/-- Where the front holds the name, the search ends in the front. -/
theorem find_front {name : String} {front : List (MonitoredFeature S)} (back : List (MonitoredFeature S))
    (present : name ∈ front.map MonitoredFeature._name) :
    Keyed.find MonitoredFeature._name name (front ++ back) = Keyed.find MonitoredFeature._name name front := by
  rw [Keyed.find_append]
  obtain ⟨f,found⟩ := Option.isSome_iff_exists.mp ((Keyed.find_isSome_iff _ _ _).mpr present)
  rw [found, Option.some_or]

/-- A feature of the front ends in the state that sweeping the front alone gives it. -/
theorem spotOf_front (spot : Spot S) (bro : Broccoli R) (record : R) {d : Daemon S}
    {front back : List (MonitoredFeature S)} (split : d.dsp.features = front ++ back) {name : String}
    (present : name ∈ front.map MonitoredFeature._name) :
    spotOf (callback spot bro record d).2 name = (Keyed.find MonitoredFeature._name name
      (Sweep.sweep (visit spot bro record none) front d.world).2.1).map MonitoredFeature._spot := by
  obtain ⟨later,swept,_⟩ := sweep_front spot bro record front back d.world
  rw [spotOf, Dispotcher.lookup, callback_features, split, swept, find_front]
  rw [sweep_names]
  exact present

theorem anomaliesOf_front (spot : Spot S) (bro : Broccoli R) (record : R) {d : Daemon S}
    {front back : List (MonitoredFeature S)} (split : d.dsp.features = front ++ back) {name : String}
    (elsewhere : name ∉ back.map MonitoredFeature._name) :
    anomaliesOf name d.world (callback spot bro record d).2.world =
      (builtAlarms spot bro record front d.world.heap.attempts).filter (fun a => a.feature = name) := by
  rw [callback_anomaliesOf, split, front_alarms elsewhere]

/-- The unreadable feature and those behind it keep their SPOT states. -/
theorem spotOf_stopped (spot : Spot S) {bro : Broccoli R} {record : R} {d : Daemon S}
    (distinct : d.dsp.names.Nodup) {before after : List (MonitoredFeature S)} {f : MonitoredFeature S}
    (split : d.dsp.features = before ++ f :: after) (fails : readValue bro record f = none)
    {g : MonitoredFeature S} (member : g ∈ f :: after) :
    spotOf (callback spot bro record d).2 g._name = some g._spot := by
  rw [Dispotcher.names, split, List.map_append, List.nodup_append] at distinct
  obtain ⟨_,named,apart⟩ := distinct
  have skipped : Keyed.find MonitoredFeature._name g._name
      (Sweep.sweep (visit spot bro record none) before d.world).2.1 = none := by
    rw [Keyed.find_eq_none_iff, sweep_names]
    exact fun there => apart _ there _ (List.mem_map_of_mem member) rfl
  have standing : Keyed.find MonitoredFeature._name g._name (f :: after) = some g :=
    Keyed.find_of_mem _ named member
  have kept : (observe spot bro record f)._spot = f._spot := by simp [observe,positiveValue,fails]
  obtain ⟨later,swept,ends⟩ := sweep_front spot bro record before (f :: after) d.world
  rw [spotOf, Dispotcher.lookup, callback_features, split, swept, Keyed.find_append, skipped,
    Option.none_or]
  rcases ends with rfl | ⟨w,rfl⟩
  · rw [standing]; rfl
  · have stops : clears spot bro record w.heap.attempts f = false := by simp [clears,fails]
    obtain ⟨e,ending,form,_⟩ := visit_stops stops
    rw [Sweep.sweep_cons_error form]
    rw [Keyed.find_cons] at standing ⊢
    by_cases here : f._name = g._name
    · rw [if_pos here] at standing
      rw [if_pos (show (observe spot bro record f)._name = g._name from here), Option.map_some, kept,
        Option.some.inj standing]
    · rw [if_neg here] at standing
      rw [if_neg (show (observe spot bro record f)._name ≠ g._name from here), standing]
      rfl

theorem anomaliesOf_stopped (spot : Spot S) {bro : Broccoli R} {record : R} {d : Daemon S}
    {before after : List (MonitoredFeature S)} {f : MonitoredFeature S}
    (split : d.dsp.features = before ++ f :: after) (fails : readValue bro record f = none)
    {name : String} (elsewhere : name ∉ before.map MonitoredFeature._name) :
    anomaliesOf name d.world (callback spot bro record d).2.world = [] := by
  rw [callback_anomaliesOf, split, List.filter_eq_nil_iff]
  intro alarm built named
  rw [decide_eq_true_eq] at named
  obtain ⟨more,same,origin⟩ := builtAlarms_append spot bro record before (f :: after)
    d.world.heap.attempts
  have nothing : more = [] := by
    rcases origin with rfl | ⟨later,rfl⟩
    · rfl
    · exact builtAlarms_unreadable fails after later
  rw [same, nothing, List.append_nil] at built
  exact elsewhere (named ▸ builtAlarms_names built)

/-- Where no allocation fails, the exception is the one of the first lookup that fails. -/
theorem raises_lookupFailed {spot : Spot S} {bro : Broccoli R} {record : R} {d : Daemon S}
    {before after : List (MonitoredFeature S)} {f : MonitoredFeature S}
    (split : d.dsp.features = before ++ f :: after)
    (readable : ∀ g ∈ before, (readValue bro record g).isSome = true)
    (fails : readValue bro record f = none) (allocated : ∀ n, bro.event_allocated n = true) :
    (callback spot bro record d).1 = .error lookupFailed := by
  have passed := (sweep_ok_iff_reached spot bro record before d.world).mpr
    (reached_of_readable allocated readable _)
  rcases swept : Sweep.sweep (visit spot bro record none) before d.world with ⟨result, front, w⟩
  rw [swept] at passed
  subst passed
  have stops : visit spot bro record none f w = (.error lookupFailed, observe spot bro record f, w) := by
    rw [visit_eq, fails]
  rw [callback_result, split, Sweep.sweep_append_ok swept, Sweep.sweep_cons_error stops]

/-- Let f be the first feature in list order that the record cannot serve. Then callback
raises, with the lookup's exception where no allocation fails; every feature before f ends
in the state and with the anomalies it has when the unreadable features are off the list; f
and every feature behind it keep their state and get no anomaly. -/
theorem unreadable_stops_the_rest (spot : Spot S) (bro : Broccoli R) (record : R) (d : Daemon S)
    (distinct : d.dsp.names.Nodup) (before : List (MonitoredFeature S)) (f : MonitoredFeature S)
    (after : List (MonitoredFeature S)) (split : d.dsp.features = before ++ f :: after)
    (readable : ∀ g ∈ before, (readValue bro record g).isSome = true)
    (fails : readValue bro record f = none) :
    let out := callback spot bro record d
    let alone := callback spot bro record (d.readableOnly bro record)
    out.1 ≠ .ok () ∧ ((∀ n, bro.event_allocated n = true) → out.1 = .error lookupFailed) ∧
    (∀ g ∈ before, spotOf out.2 g._name = spotOf alone.2 g._name ∧
      anomaliesOf g._name d.world out.2.world = anomaliesOf g._name d.world alone.2.world) ∧
    ∀ g ∈ f :: after, spotOf out.2 g._name = some g._spot ∧
      anomaliesOf g._name d.world out.2.world = [] := by
  have kept : (d.readableOnly bro record).dsp.features =
      before ++ after.filter (fun g => (readValue bro record g).isSome) := by
    rw [Daemon.readableOnly, Dispotcher.features_ofFeatures, split, List.filter_append,
      List.filter_eq_self.mpr readable, List.filter_cons_of_neg (by simp [fails])]
  have apart : ∀ g ∈ before, ∀ h ∈ f :: after, g._name ≠ h._name := by
    rw [Dispotcher.names, split, List.map_append, List.nodup_append] at distinct
    intro g earlier h later
    exact distinct.2.2 _ (List.mem_map_of_mem earlier) _ (List.mem_map_of_mem later)
  refine ⟨?_, raises_lookupFailed split readable fails, ?_, ?_⟩
  · intro returned
    have read := callback_ok_readable returned f (by simp [split])
    rw [readValue, Option.map_eq_none_iff] at fails
    rw [fails] at read
    cases read
  · intro g member
    have present : g._name ∈ before.map MonitoredFeature._name := List.mem_map_of_mem member
    have away : g._name ∉ (f :: after).map MonitoredFeature._name := by
      intro there
      obtain ⟨h,later,same⟩ := List.mem_map.mp there
      exact apart g member h later same.symm
    have away' : g._name ∉
        (after.filter (fun g => (readValue bro record g).isSome)).map MonitoredFeature._name :=
      fun there => away (List.mem_cons_of_mem _ ((List.filter_sublist.map _).mem there))
    exact ⟨(spotOf_front spot bro record split present).trans
        (spotOf_front spot bro record kept present).symm,
      (anomaliesOf_front spot bro record split away).trans
        (anomaliesOf_front spot bro record kept away').symm⟩
  · intro g member
    refine ⟨spotOf_stopped spot distinct split fails member, anomaliesOf_stopped spot split fails ?_⟩
    intro there
    obtain ⟨h,earlier,same⟩ := List.mem_map.mp there
    exact apart h earlier g member same

theorem optional_field_stops_mem :
    let f := MonitoredFeature.new (.returning 3) "pkts_link" BRO_TYPE_COUNT .shipped
    let g := MonitoredFeature.new (.returning 3) "mem" BRO_TYPE_COUNT .shipped
    spotOf (callback (.returning 3) (Broccoli.ofFields (fun _ => true)) [("mem", ⟨BRO_TYPE_COUNT, 100⟩)]
      ⟨0, .ofFeatures [f,g], .initial⟩).2 "mem" = some (.shipped, []) :=
  ((unreadable_stops_the_rest (.returning 3) (Broccoli.ofFields (fun _ => true))
    [("mem", ⟨BRO_TYPE_COUNT, 100⟩)]
    ⟨0, .ofFeatures [.new (.returning 3) "pkts_link" BRO_TYPE_COUNT .shipped,
      .new (.returning 3) "mem" BRO_TYPE_COUNT .shipped], .initial⟩
    (by decide) [] (.new (.returning 3) "pkts_link" BRO_TYPE_COUNT .shipped)
    [.new (.returning 3) "mem" BRO_TYPE_COUNT .shipped] rfl (by simp) rfl).2.2.2
    (.new (.returning 3) "mem" BRO_TYPE_COUNT .shipped) (by simp)).1

/-- The optional `pkts_link` is absent from the record: `mem`, behind it in the list, misses
a value that it is fed when `pkts_link` is not monitored. -/
theorem absent_field_disturbs_mem :
    let bro := Broccoli.ofFields (fun _ => true)
    let record : List (String × BroVal) := [("mem", ⟨BRO_TYPE_COUNT, 100⟩)]
    let f := MonitoredFeature.new (.returning 3) "pkts_link" BRO_TYPE_COUNT .shipped
    let g := MonitoredFeature.new (.returning 3) "mem" BRO_TYPE_COUNT .shipped
    let d : Daemon (SpotConfig × List Double) := ⟨0, .ofFeatures [f,g], .initial⟩
    d.dsp.names.Nodup ∧ readValue bro record f = none ∧ (readValue bro record g).isSome = true ∧
    spotOf (callback (.returning 3) bro record d).2 "mem" ≠
      spotOf (callback (.returning 3) bro record (d.readableOnly bro record)).2 "mem" := by
  refine ⟨by decide, rfl, rfl, ?_⟩
  decide

end BroSpotd
