import BroSpotd.Daemon

/-! Which events a run builds and what they say. `builtAt` decides, for one position of the
list, whether an event is built there; the ledger of a run is the list of these alarms,
and the k-th event of the heap is the k-th entry of the ledger. -/
namespace BroSpotd

variable {S R : Type}

/-- The loop passes this feature: it reads it, and an alarm finds memory for its event. -/
def clears (spot : Spot S) (bro : Broccoli R) (record : R) (attempts : Nat) (f : MonitoredFeature S) : Bool :=
  (readValue bro record f).isSome &&
    ((alarm? spot bro record f).isNone || bro.event_allocated attempts)

/-- How many times `bro_event_new` was called before position i. -/
def raisedBefore (spot : Spot S) (bro : Broccoli R) (record : R) (list : List (MonitoredFeature S))
    (i : Nat) : Nat := ((list.take i).filterMap (alarm? spot bro record)).length

/-- Position i is reached: the loop passes every position before it. -/
def Reached (spot : Spot S) (bro : Broccoli R) (record : R) (list : List (MonitoredFeature S))
    (attempts i : Nat) : Prop :=
  ∀ j < i, (list[j]?).all (clears spot bro record (attempts + raisedBefore spot bro record list j)) = true

instance (spot : Spot S) (bro : Broccoli R) (record : R) (list : List (MonitoredFeature S))
    (attempts i : Nat) : Decidable (Reached spot bro record list attempts i) :=
  inferInstanceAs (Decidable (∀ j < i, _))

/-- The alarm whose event is built at position i. -/
def builtAt (spot : Spot S) (bro : Broccoli R) (record : R) (list : List (MonitoredFeature S))
    (attempts i : Nat) : Option Alarm :=
  if Reached spot bro record list attempts i ∧
      bro.event_allocated (attempts + raisedBefore spot bro record list i) = true
  then (list[i]?).bind (alarm? spot bro record) else none

def builtAlarms (spot : Spot S) (bro : Broccoli R) (record : R) (list : List (MonitoredFeature S))
    (attempts : Nat) : List Alarm :=
  (List.range list.length).filterMap (builtAt spot bro record list attempts)

/-- The alarms whose events one step of a run builds. -/
def ledgerOf (spot : Spot S) (bro : Broccoli R) (d : Daemon S) : Daemon.Action R → List Alarm
  | .record record => builtAlarms spot bro record d.dsp.features d.world.heap.attempts
  | .reset _ _ => []

def ledger (spot : Spot S) (bro : Broccoli R) (d : Daemon S) (actions : List (Daemon.Action R)) : List Alarm :=
  Runs.output (Daemon.next spot bro) (ledgerOf spot bro) d actions

/-- An alarm is a positive value on which SPOT steps to 1 or -1, with the probability of
that tail after the step. -/
theorem alarm?_eq_some_iff (spot : Spot S) (bro : Broccoli R) (record : R) (f : MonitoredFeature S)
    (alarm : Alarm) : alarm? spot bro record f = some alarm ↔
      ∃ d, readValue bro record f = some d ∧ d.isPositive = true ∧ alarm.feature = f._name ∧
        (((spot.step f._spot d).2 = 1 ∧
            alarm.probability = spot.up_probability (spot.step f._spot d).1 d) ∨
          ((spot.step f._spot d).2 = -1 ∧
            alarm.probability = spot.down_probability (spot.step f._spot d).1 d)) := by
  obtain ⟨feature,probability⟩ := alarm
  cases read : readValue bro record f with
  | none => simp [alarm?,positiveValue,read]
  | some d =>
    by_cases positive : d.isPositive = true
    · by_cases up : (spot.step f._spot d).2 = 1
      · simp [alarm?,positiveValue,read,positive,Option.filter_some,tail?,up,eq_comm (a := f._name),
          eq_comm (a := spot.up_probability _ _)]
      · by_cases down : (spot.step f._spot d).2 = -1 <;>
          simp [alarm?,positiveValue,read,positive,Option.filter_some,tail?,up,down,eq_comm (a := f._name),
            eq_comm (a := spot.down_probability _ _)]
    · simp [alarm?,positiveValue,read,positive,Option.filter_some]

theorem alarm?_unreadable {spot : Spot S} {bro : Broccoli R} {record : R} {f : MonitoredFeature S}
    (unread : readValue bro record f = none) : alarm? spot bro record f = none := by
  simp [alarm?,positiveValue,unread]

theorem raisedBefore_cons (spot : Spot S) (bro : Broccoli R) (record : R) (f : MonitoredFeature S)
    (rest : List (MonitoredFeature S)) (i : Nat) :
    raisedBefore spot bro record (f :: rest) (i+1) =
      (alarm? spot bro record f).toList.length + raisedBefore spot bro record rest i := by
  cases h : alarm? spot bro record f <;> simp [raisedBefore,h]; omega

theorem reached_cons (spot : Spot S) (bro : Broccoli R) (record : R) (f : MonitoredFeature S)
    (rest : List (MonitoredFeature S)) (attempts i : Nat) :
    Reached spot bro record (f :: rest) attempts (i+1) ↔
      clears spot bro record attempts f = true ∧
        Reached spot bro record rest (attempts + (alarm? spot bro record f).toList.length) i := by
  constructor
  · intro reached
    refine ⟨by simpa [raisedBefore] using reached 0 (Nat.zero_lt_succ i), ?_⟩
    intro j before
    simpa [raisedBefore_cons,Nat.add_assoc] using reached (j+1) (Nat.succ_lt_succ before)
  · rintro ⟨first,later⟩ j before
    cases j with
    | zero => simpa [raisedBefore] using first
    | succ j =>
      simpa [raisedBefore_cons,Nat.add_assoc] using later j (Nat.lt_of_succ_lt_succ before)

theorem builtAt_zero (spot : Spot S) (bro : Broccoli R) (record : R) (f : MonitoredFeature S)
    (rest : List (MonitoredFeature S)) (attempts : Nat) :
    builtAt spot bro record (f :: rest) attempts 0 =
      if bro.event_allocated attempts = true then alarm? spot bro record f else none := by
  simp [builtAt,Reached,raisedBefore]

theorem builtAt_succ (spot : Spot S) (bro : Broccoli R) (record : R) (f : MonitoredFeature S)
    (rest : List (MonitoredFeature S)) (attempts i : Nat) :
    builtAt spot bro record (f :: rest) attempts (i+1) =
      if clears spot bro record attempts f = true then
        builtAt spot bro record rest (attempts + (alarm? spot bro record f).toList.length) i
      else none := by
  by_cases first : clears spot bro record attempts f = true <;>
    simp [builtAt,reached_cons,raisedBefore_cons,first,Nat.add_assoc]

/-- A feature the loop passes: observed, and its alarm, if any, lost. -/
theorem visit_passes {spot : Spot S} {bro : Broccoli R} {record : R} {f : MonitoredFeature S} {w : World}
    (passes : clears spot bro record w.heap.attempts f = true) :
    visit spot bro record none f w =
      (.ok (), observe spot bro record f, (alarm? spot bro record f).toList.foldl World.lose w) := by
  obtain ⟨read,room⟩ := Bool.and_eq_true_iff.mp passes
  obtain ⟨d,read⟩ := Option.isSome_iff_exists.mp read
  rw [visit_eq, read]
  cases raised : alarm? spot bro record f with
  | none => rfl
  | some alarm =>
    have allocated : bro.event_allocated w.heap.attempts = true := by simpa [raised] using room
    simp [allocated]

/-- A feature the loop stops at: the exception leaves no event behind. -/
theorem visit_stops {spot : Spot S} {bro : Broccoli R} {record : R} {f : MonitoredFeature S} {w : World}
    (stops : clears spot bro record w.heap.attempts f = false) :
    ∃ e ending, visit spot bro record none f w = (.error e, observe spot bro record f, ending) ∧
      (ending = w ∨ ending = w.refuse) ∧
      (if bro.event_allocated w.heap.attempts = true then alarm? spot bro record f else none) = none := by
  cases read : readValue bro record f with
  | none =>
    refine ⟨lookupFailed, w, by rw [visit_eq, read], .inl rfl, ?_⟩
    simp [alarm?_unreadable read]
  | some d =>
    cases raised : alarm? spot bro record f with
    | none => simp [clears,read,raised] at stops
    | some alarm =>
      have refused : bro.event_allocated w.heap.attempts = false := by simpa [clears,read,raised] using stops
      refine ⟨allocationFailed, w.refuse, by simp [visit_eq,read,raised,refused], .inr rfl, ?_⟩
      simp [refused]

theorem clears_builds {spot : Spot S} {bro : Broccoli R} {record : R} {attempts : Nat}
    {f : MonitoredFeature S} (passes : clears spot bro record attempts f = true) :
    (if bro.event_allocated attempts = true then alarm? spot bro record f else none) =
      alarm? spot bro record f := by
  cases raised : alarm? spot bro record f with
  | none => simp
  | some alarm =>
    have allocated : bro.event_allocated attempts = true := by
      simpa [clears,raised] using (Bool.and_eq_true_iff.mp passes).2
    simp [allocated]

@[simp] theorem attempts_losses (alarms : List Alarm) (w : World) :
    (alarms.foldl World.lose w).heap.attempts = w.heap.attempts + alarms.length := by
  induction alarms generalizing w with
  | nil => rfl
  | cons alarm rest ih => simp [ih]; omega

/-- The loop gets through a list exactly when it passes every position of it. -/
theorem sweep_ok_iff_reached (spot : Spot S) (bro : Broccoli R) (record : R)
    (list : List (MonitoredFeature S)) (w : World) :
    (Sweep.sweep (visit spot bro record none) list w).1 = .ok () ↔
      Reached spot bro record list w.heap.attempts list.length := by
  induction list generalizing w with
  | nil => simp [Reached]
  | cons f rest ih =>
    rw [List.length_cons, reached_cons]
    cases passes : clears spot bro record w.heap.attempts f with
    | false =>
      obtain ⟨e,ending,form,_⟩ := visit_stops passes
      simp [Sweep.sweep_cons_error form]
    | true =>
      rw [Sweep.sweep_cons_ok (visit_passes passes), ih, attempts_losses]
      simp

/-- Lookups and allocations are all that can stop the loop. -/
theorem reached_of_readable {spot : Spot S} {bro : Broccoli R} {record : R}
    {list : List (MonitoredFeature S)} (allocated : ∀ n, bro.event_allocated n = true)
    (readable : ∀ f ∈ list, (readValue bro record f).isSome = true) (attempts : Nat) :
    Reached spot bro record list attempts list.length := by
  intro j before
  rw [List.getElem?_eq_getElem before]
  simp [clears,allocated,readable _ (List.getElem_mem before)]

/-- A callback whose lookups and allocations all succeed returns. -/
theorem callback_returns {spot : Spot S} {bro : Broccoli R} {record : R} {d : Daemon S}
    (allocated : ∀ n, bro.event_allocated n = true)
    (readable : ∀ f ∈ d.dsp.features,
      (bro.bro_record_get_named_val record f._name f._bro_type).1.isSome = true) :
    (callback spot bro record d).1 = .ok () := by
  rw [callback_result, sweep_ok_iff_reached]
  refine reached_of_readable allocated (fun f member => ?_) _
  simpa [readValue] using readable f member

/-- What a step can be served with: a record that every lookup succeeds on, a reset that nothing
disturbs. -/
def Daemon.Supplied (bro : Broccoli R) (d : Daemon S) : Daemon.Action R → Prop
  | .record record => ∀ f ∈ d.dsp.features,
      (bro.bro_record_get_named_val record f._name f._bro_type).1.isSome = true
  | .reset _ fault => fault = none

/-- Where every event is allocated, the runs of whole steps are those whose lookups and resets
succeed. -/
theorem Daemon.whole_iff_supplied {bro : Broccoli R} (allocated : ∀ n, bro.event_allocated n = true) (spot : Spot S)
    (d : Daemon S) (actions : List (Daemon.Action R)) :
    Daemon.Whole spot bro d actions ↔ Runs.Along (Daemon.next spot bro) (Daemon.Supplied bro) d actions := by
  apply Runs.along_congr
  intro d a
  cases a with
  | record record => exact ⟨callback_ok_readable, callback_returns allocated⟩
  | reset feature fault => exact Iff.rfl

/-- The alarms of a list, head first: the recursion that the loop follows. -/
theorem builtAlarms_cons (spot : Spot S) (bro : Broccoli R) (record : R) (f : MonitoredFeature S)
    (rest : List (MonitoredFeature S)) (attempts : Nat) :
    builtAlarms spot bro record (f :: rest) attempts =
      (if bro.event_allocated attempts = true then alarm? spot bro record f else none).toList ++
      if clears spot bro record attempts f = true then
        builtAlarms spot bro record rest (attempts + (alarm? spot bro record f).toList.length)
      else [] := by
  rw [builtAlarms, List.length_cons, List.range_succ_eq_map, List.filterMap_cons, builtAt_zero,
    List.filterMap_map]
  have tail : (List.range rest.length).filterMap
      (builtAt spot bro record (f :: rest) attempts ∘ Nat.succ) =
      if clears spot bro record attempts f = true then
        builtAlarms spot bro record rest (attempts + (alarm? spot bro record f).toList.length)
      else [] := by
    have shift : builtAt spot bro record (f :: rest) attempts ∘ Nat.succ =
        fun i => if clears spot bro record attempts f = true then
          builtAt spot bro record rest (attempts + (alarm? spot bro record f).toList.length) i
        else none := funext (builtAt_succ spot bro record f rest attempts)
    rw [shift]
    split
    · rfl
    · simp
  rw [tail]
  cases (if bro.event_allocated attempts = true then alarm? spot bro record f else none) <;> rfl

/-- Where the whole list is reached, every alarm gets its event. -/
theorem builtAlarms_of_reached {spot : Spot S} {bro : Broccoli R} {record : R}
    {list : List (MonitoredFeature S)} {attempts : Nat}
    (reached : Reached spot bro record list attempts list.length) :
    builtAlarms spot bro record list attempts = list.filterMap (alarm? spot bro record) := by
  induction list generalizing attempts with
  | nil => rfl
  | cons f rest ih =>
    obtain ⟨passes,later⟩ := (reached_cons spot bro record f rest attempts rest.length).mp reached
    rw [builtAlarms_cons, clears_builds passes, if_pos passes, ih later]
    cases raised : alarm? spot bro record f <;> simp [raised]

/-- What a sweep leaves in the world: its alarms lost in order and, where an allocation
ended it, one attempt more. -/
theorem sweep_world (spot : Spot S) (bro : Broccoli R) (record : R) (list : List (MonitoredFeature S))
    (w : World) :
    let lost := (builtAlarms spot bro record list w.heap.attempts).foldl World.lose w
    (Sweep.sweep (visit spot bro record none) list w).2.2 = lost ∨
      (Sweep.sweep (visit spot bro record none) list w).2.2 = lost.refuse := by
  induction list generalizing w with
  | nil => exact .inl rfl
  | cons f rest ih =>
    rw [builtAlarms_cons]
    cases passes : clears spot bro record w.heap.attempts f with
    | false =>
      obtain ⟨e,ending,form,ends,nothing⟩ := visit_stops passes
      rw [Sweep.sweep_cons_error form, nothing]
      exact ends
    | true =>
      rw [Sweep.sweep_cons_ok (visit_passes passes), clears_builds passes, if_pos rfl, List.foldl_append]
      have later := ih ((alarm? spot bro record f).toList.foldl World.lose w)
      rw [attempts_losses] at later
      exact later

/-- What every lost alarm extends, a run extends by its ledger. -/
theorem related_run {related : World → List Alarm → Prop}
    (lose : ∀ w alarms alarm, related w alarms → related (w.lose alarm) (alarms ++ [alarm]))
    (refuse : ∀ w alarms, related w alarms → related w.refuse alarms)
    (spot : Spot S) (bro : Broccoli R) {d : Daemon S} (start : related d.world [])
    (actions : List (Daemon.Action R)) :
    related (Daemon.run spot bro d actions).world (ledger spot bro d actions) := by
  have losses : ∀ more w alarms, related w alarms → related (more.foldl World.lose w) (alarms ++ more) := by
    intro more
    induction more with
    | nil => intro w alarms start; simpa using start
    | cons alarm rest ih =>
      intro w alarms start
      simpa using ih _ _ (lose w alarms alarm start)
  apply Runs.related_output _ _ (fun d : Daemon S => related d.world) _ actions start
  clear start
  intro d alarms a start
  cases a with
  | record record =>
    have lost := losses (builtAlarms spot bro record d.dsp.features d.world.heap.attempts) _ _ start
    show related (callback spot bro record d).2.world _
    rw [callback_world]
    rcases sweep_world spot bro record d.dsp.features d.world with ends | ends
    · rw [ends]; exact lost
    · rw [ends]; exact refuse _ _ lost
  | reset feature fault =>
    rw [ledgerOf, List.append_nil]
    exact start

/-- The heap holds exactly the ledger's events, numbered from 0, and `req_id` is next. -/
structure Records (w : World) (alarms : List Alarm) : Prop where
  events : w.heap.events = alarms.mapIdx (fun k alarm => spotAnomaly (Int32.ofNat k) alarm)
  req_id : w.req_id = Int32.ofNat alarms.length

theorem Records.lose (w : World) (alarms : List Alarm) (alarm : Alarm) (records : Records w alarms) :
    Records (w.lose alarm) (alarms ++ [alarm]) where
  events := by
    simp only [World.lose, World.build, List.mapIdx_concat, ← records.events, records.req_id]
  req_id := by simp [World.lose,World.build,records.req_id]

theorem run_records (spot : Spot S) (bro : Broccoli R) (entries : List Entry)
    (actions : List (Daemon.Action R)) :
    Records (Daemon.run spot bro (.start spot entries) actions).world
      (ledger spot bro (.start spot entries) actions) :=
  related_run Records.lose (fun _ _ records => ⟨records.events,records.req_id⟩) spot bro ⟨rfl,rfl⟩ actions

/-- The k-th event is the k-th alarm under the number k, as long as numbers fit an int. -/
theorem Records.event_iff {w : World} {alarms : List Alarm} (records : Records w alarms)
    (few : alarms.length < 2^31) (k : Nat) (event : BroEvent) :
    w.heap.events[k]? = some event ↔ ∃ (alarm : Alarm) (id : Int32),
      alarms[k]? = some alarm ∧ id.toInt = (k : Int) ∧ event = spotAnomaly id alarm := by
  rw [records.events, List.getElem?_mapIdx]
  constructor
  · intro stored
    obtain ⟨alarm,listed,rfl⟩ := Option.map_eq_some_iff.mp stored
    have bound : k < 2^31 := lt_trans (List.getElem?_eq_some_iff.mp listed).1 few
    exact ⟨alarm, Int32.ofNat k, listed, Int32.toInt_ofNat_of_lt bound, rfl⟩
  · rintro ⟨alarm,id,listed,number,rfl⟩
    have bound : k < 2^31 := lt_trans (List.getElem?_eq_some_iff.mp listed).1 few
    have same : id = Int32.ofNat k := by
      apply Int32.toInt_inj.mp
      rw [number, Int32.toInt_ofNat_of_lt bound]
    simp [listed,same]

theorem builtAt_eq_some_iff (spot : Spot S) (bro : Broccoli R) (record : R)
    {list : List (MonitoredFeature S)} (attempts : Nat) {i : Nat} {f : MonitoredFeature S}
    (standing : list[i]? = some f) (alarm : Alarm) :
    builtAt spot bro record list attempts i = some alarm ↔
      Reached spot bro record list attempts i ∧
      bro.event_allocated (attempts + raisedBefore spot bro record list i) = true ∧
      alarm? spot bro record f = some alarm := by
  rw [builtAt, standing, Option.bind_some]
  by_cases reaches : Reached spot bro record list attempts i
  · by_cases allocated : bro.event_allocated (attempts + raisedBefore spot bro record list i) = true <;>
      simp [reaches,allocated]
  · simp [reaches]

/-- Over any run, cut short or not: the events are the ledger's in order, the k-th carries
the id k, and position i of the list adds an entry exactly when it is reached, its value
is positive, SPOT steps to 1 or -1 on it, and the allocation succeeds. -/
theorem anomalies_of_run (spot : Spot S) (bro : Broccoli R) (entries : List Entry)
    (actions : List (Daemon.Action R))
    (few : (ledger spot bro (.start spot entries) actions).length < 2^31) :
    let d := Daemon.run spot bro (.start spot entries) actions
    (∀ (k : Nat) event, d.world.heap.events[k]? = some event ↔
      ∃ (alarm : Alarm) (id : Int32), (ledger spot bro (.start spot entries) actions)[k]? = some alarm ∧
        id.toInt = (k : Int) ∧ event = spotAnomaly id alarm) ∧
    ∀ before record after, actions = before ++ .record record :: after →
      let d := Daemon.run spot bro (.start spot entries) before
      ledgerOf spot bro d (.record record) = (List.range d.dsp.features.length).filterMap
        (builtAt spot bro record d.dsp.features d.world.heap.attempts) ∧
      ∀ i f alarm, d.dsp.features[i]? = some f →
        (builtAt spot bro record d.dsp.features d.world.heap.attempts i = some alarm ↔
          Reached spot bro record d.dsp.features d.world.heap.attempts i ∧
          bro.event_allocated (d.world.heap.attempts +
            raisedBefore spot bro record d.dsp.features i) = true ∧
          ∃ v, readValue bro record f = some v ∧ v.isPositive = true ∧ alarm.feature = f._name ∧
            (((spot.step f._spot v).2 = 1 ∧
                alarm.probability = spot.up_probability (spot.step f._spot v).1 v) ∨
              ((spot.step f._spot v).2 = -1 ∧
                alarm.probability = spot.down_probability (spot.step f._spot v).1 v))) := by
  have records := run_records spot bro entries actions
  refine ⟨records.event_iff few, ?_⟩
  intro before record after _
  refine ⟨rfl, ?_⟩
  intro i f alarm standing
  rw [← alarm?_eq_some_iff]
  exact builtAt_eq_some_iff spot bro record _ standing alarm

theorem anomalies_of_alerting_run :
    let entries : List Entry := [⟨"active_tcp_conns", BRO_TYPE_DOUBLE, .shipped⟩]
    let record : List (String × BroVal) := [("active_tcp_conns", ⟨BRO_TYPE_DOUBLE, 0x4059000000000000⟩)]
    let bro := Broccoli.ofFields (fun _ => true)
    let d := Daemon.run (.returning 1) bro (.start (.returning 1) entries)
      [.record record, .reset "active_tcp_conns" none, .record record]
    d.world.heap.events[1]? = some (spotAnomaly 1 ⟨"active_tcp_conns", ⟨0x3F1A36E2EB1C432D⟩⟩) :=
  ((anomalies_of_run (.returning 1) (Broccoli.ofFields (fun _ => true))
    [⟨"active_tcp_conns", BRO_TYPE_DOUBLE, .shipped⟩]
    [.record [("active_tcp_conns", ⟨BRO_TYPE_DOUBLE, 0x4059000000000000⟩)],
      .reset "active_tcp_conns" none,
      .record [("active_tcp_conns", ⟨BRO_TYPE_DOUBLE, 0x4059000000000000⟩)]] (by decide)).1 1 _).mpr
    ⟨⟨"active_tcp_conns", ⟨0x3F1A36E2EB1C432D⟩⟩, 1, by decide, by decide, rfl⟩

end BroSpotd
