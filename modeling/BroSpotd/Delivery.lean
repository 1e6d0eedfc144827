import BroSpotd.Ledger
import BroSpotd.Monitor

/-! What reaches Bro. `callback` sends and frees its own null pointer, since the address of
the event that `process` built ends with the call. `Delivered` is what a run of records
owes Bro; it holds exactly when SPOT found nothing to report. -/
namespace BroSpotd

variable {S R : Type}

def built (calls : List Call) : List Nat :=
  calls.filterMap (fun call => match call with | .new event => some event | _ => none)
def sends (calls : List Call) : List EventPtr :=
  calls.filterMap (fun call => match call with | .send event => some event | _ => none)
def frees (calls : List Call) : List EventPtr :=
  calls.filterMap (fun call => match call with | .free event => some event | _ => none)

/-- The events built are sent in the order they were built, each is freed once, after it
was sent, and no other pointer is sent or freed. -/
structure Delivered (calls : List Call) : Prop where
  sent : sends calls = (built calls).map some
  freed : (frees calls).Perm ((built calls).map some)
  ordered : ∀ before event after, calls = before ++ .free event :: after → .send event ∈ before

theorem delivered_nil : Delivered [] :=
  ⟨rfl, .refl _, fun before event after split => by simp at split⟩

theorem Delivered.no_null {calls : List Call} (delivered : Delivered calls) : .send none ∉ calls := by
  intro member
  have sent : none ∈ sends calls := List.mem_filterMap.mpr ⟨_,member,rfl⟩
  rw [delivered.sent] at sent
  simp at sent

/-- SPOT, fed the values in order from the state, never steps to 1 or -1. -/
def Quiet (spot : Spot S) : S → List Double → Prop
  | _, [] => True
  | state, d :: rest =>
    (spot.step state d).2 ≠ 1 ∧ (spot.step state d).2 ≠ -1 ∧ Quiet spot (spot.step state d).1 rest

/-- The positive values of a field over a list of records. -/
def positives (bro : Broccoli R) (name : String) (records : List R) : List Double :=
  records.filterMap (fun record => (fieldValue bro record name).filter Binary64.isPositive)

theorem tail?_eq_none_iff (spot : Spot S) (state : S) (d : Double) :
    tail? spot state d = none ↔ (spot.step state d).2 ≠ 1 ∧ (spot.step state d).2 ≠ -1 := by
  by_cases up : (spot.step state d).2 = 1
  · simp [tail?,up]
  · by_cases down : (spot.step state d).2 = -1 <;> simp [tail?,up,down]

/-- One record ahead: no alarm now, and quiet on the rest from the observed state. -/
theorem quiet_cons {spot : Spot S} {bro : Broccoli R} {record : R} {f : MonitoredFeature S}
    (readable : (bro.bro_record_get_named_val record f._name f._bro_type).1.isSome = true)
    (records : List R) :
    Quiet spot f._spot (positives bro f._name (record :: records)) ↔
      alarm? spot bro record f = none ∧
        Quiet spot (observe spot bro record f)._spot (positives bro f._name records) := by
  simp only [positives, List.filterMap_cons, ← positiveValue_eq readable, alarm?, observe]
  cases positiveValue bro record f with
  | none => simp
  | some d => simp [Quiet,tail?_eq_none_iff,and_assoc]

/-- Over records handled to their ends, no event is built exactly when every feature stays
quiet. -/
theorem ledger_eq_nil_iff {spot : Spot S} {bro : Broccoli R} {records : List R} {d : Daemon S}
    (whole : Daemon.Whole spot bro d (records.map .record)) :
    ledger spot bro d (records.map .record) = [] ↔
      ∀ f ∈ d.dsp.features, Quiet spot f._spot (positives bro f._name records) := by
  induction records generalizing d with
  | nil => simp [ledger,Runs.output,positives,Quiet]
  | cons record rest ih =>
    obtain ⟨returned,later⟩ := whole
    have returned : (callback spot bro record d).1 = .ok () := returned
    have first : ledgerOf spot bro d (.record record) =
        d.dsp.features.filterMap (alarm? spot bro record) := by
      rw [callback_result] at returned
      exact builtAlarms_of_reached ((sweep_ok_iff_reached ..).mp returned)
    have moved : (Daemon.next spot bro d (.record record)).dsp.features =
        d.dsp.features.map (observe spot bro record) := callback_ok_features returned
    have rest_quiet := ih later
    rw [moved] at rest_quiet
    rw [ledger, List.map_cons, Runs.output, List.append_eq_nil_iff, first, ← ledger, rest_quiet,
      List.filterMap_eq_nil_iff]
    simp only [List.mem_map, forall_exists_index, and_imp, forall_apply_eq_imp_iff₂]
    rw [← forall₂_and]
    refine forall₂_congr (fun f member => ?_)
    exact (quiet_cons (callback_ok_readable returned f member) rest).symm

/-- No call was made before the first alarm; from then on a null pointer has been sent. -/
def NullSent (w : World) (alarms : List Alarm) : Prop :=
  w.heap.calls = [] ∧ alarms = [] ∨ .send none ∈ w.heap.calls ∧ alarms ≠ []

theorem NullSent.lose (w : World) (alarms : List Alarm) (alarm : Alarm) (_sent : NullSent w alarms) :
    NullSent (w.lose alarm) (alarms ++ [alarm]) := .inr ⟨by simp [World.lose], by simp⟩

/-- A run of records delivers the anomalies of SPOT exactly when there are none. -/
theorem delivered_iff_quiet (spot : Spot S) (bro : Broccoli R) (features : List (MonitoredFeature S))
    (records : List R)
    (whole : Daemon.Whole spot bro ⟨0, .ofFeatures features, .initial⟩ (records.map .record)) :
    Delivered (Daemon.run spot bro ⟨0, .ofFeatures features, .initial⟩
      (records.map .record)).world.heap.calls ↔
      ∀ f ∈ features, Quiet spot f._spot (positives bro f._name records) := by
  have quiet := ledger_eq_nil_iff whole
  rw [Dispotcher.features_ofFeatures] at quiet
  have sent : NullSent (Daemon.run spot bro ⟨0, .ofFeatures features, .initial⟩
      (records.map .record)).world
      (ledger spot bro ⟨0, .ofFeatures features, .initial⟩ (records.map .record)) :=
    related_run NullSent.lose (fun _ _ sent => sent) spot bro (.inl ⟨rfl,rfl⟩) _
  rw [← quiet]
  rcases sent with ⟨silent,none_built⟩ | ⟨null,some_built⟩
  · exact iff_of_true (silent ▸ delivered_nil) none_built
  · exact iff_of_false (fun delivered => delivered.no_null null) some_built

theorem delivered_while_calibrating :
    Delivered (Daemon.run (.returning 3) (Broccoli.ofFields (fun _ => true))
      ⟨0, .ofFeatures [.new (.returning 3) "mem" BRO_TYPE_DOUBLE .shipped], .initial⟩
      ([[("mem", ⟨BRO_TYPE_DOUBLE, 0x4059000000000000⟩)]].map .record)).world.heap.calls :=
  (delivered_iff_quiet (.returning 3) (Broccoli.ofFields (fun _ => true))
    [.new (.returning 3) "mem" BRO_TYPE_DOUBLE .shipped] [[("mem", ⟨BRO_TYPE_DOUBLE, 0x4059000000000000⟩)]]
    ⟨rfl,trivial⟩).mpr (by
      intro f member
      rw [List.mem_singleton] at member
      subst member
      exact ⟨by decide, by decide, trivial⟩)

/-- One feature, one record, one anomaly: `process` builds the event at address 0, and the
null pointer is sent and freed in its place. -/
theorem anomaly_not_delivered :
    let d := Daemon.run (.returning 1) (Broccoli.ofFields (fun _ => true))
      ⟨0, .ofFeatures [.new (.returning 1) "mem" BRO_TYPE_DOUBLE .shipped], .initial⟩
      [.record [("mem", ⟨BRO_TYPE_DOUBLE, 0x4059000000000000⟩)]]
    Daemon.Whole (.returning 1) (Broccoli.ofFields (fun _ => true))
      ⟨0, .ofFeatures [.new (.returning 1) "mem" BRO_TYPE_DOUBLE .shipped], .initial⟩
      [.record [("mem", ⟨BRO_TYPE_DOUBLE, 0x4059000000000000⟩)]] ∧
    d.world.heap.calls = [.new 0, .send none, .free none] ∧ ¬ Delivered d.world.heap.calls := by
  refine ⟨⟨rfl,trivial⟩, by decide, ?_⟩
  intro delivered
  exact absurd delivered.sent (by decide)

end BroSpotd
