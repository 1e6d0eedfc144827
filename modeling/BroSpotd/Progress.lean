import BroSpotd.Library.Cursor
import BroSpotd.Listening
import BroSpotd.Serial

/-! How long a record takes. Undisturbed, `callback` returns after three steps for each feature
and one more. A Reset of a feature that the loop has passed adds three, since the feature comes
ahead of the loop again. Nothing adds more, but a client may go on with that for ever. -/
namespace BroSpotd

variable {S R : Type}

namespace Loop

/-- The steps until the loop is left, if nothing happens to the list and nothing raises. -/
inductive Remaining (list : NodeList (MonitoredFeature S)) : Loop R → Nat → Prop
  | idle : Remaining list .idle 0
  | test {record : R} {it : Option Nat} {behind ahead : List (Node (MonitoredFeature S))}
      (stands : list.At it behind ahead) : Remaining list (.test record it) (3*ahead.length+1)
  | body {record : R} {id : Nat} {behind rest : List (Node (MonitoredFeature S))}
      {node : Node (MonitoredFeature S)} (stands : list.At (some id) behind (node :: rest)) :
      Remaining list (.body record id) (3*rest.length+3)
  | increment {record : R} {id : Nat} {behind rest : List (Node (MonitoredFeature S))}
      {node : Node (MonitoredFeature S)} (stands : list.At (some id) behind (node :: rest)) :
      Remaining list (.increment record id) (3*rest.length+2)

theorem Remaining.idle_of_zero {list : NodeList (MonitoredFeature S)} {loop : Loop R}
    (remaining : Remaining list loop 0) : loop = .idle := by
  cases remaining
  rfl

end Loop

open Loop

namespace Receiver

theorem arrive_remaining (record : R) {r : Receiver S R} (idle : r.loop = .idle) :
    Remaining (r.arrive record).daemon.dsp._features (r.arrive record).loop (3*r.daemon.dsp.size+1) := by
  obtain ⟨d,_⟩ := r
  cases idle
  exact .test d.dsp._features.at_begin

/-- A step leaves one step less, or none where something is raised. -/
theorem step_remaining (spot : Spot S) (bro : Broccoli R) {r : Receiver S R} {n : Nat}
    (remaining : Remaining r.daemon.dsp._features r.loop (n + 1)) :
    Remaining (r.step spot bro).daemon.dsp._features (r.step spot bro).loop n ∨
    (r.step spot bro).loop = .idle := by
  obtain ⟨d,loop⟩ := r
  cases remaining with
  | @test record it behind ahead stands =>
    cases it with
    | none => exact .inr rfl
    | some id =>
      obtain ⟨node,rest,rfl,_⟩ := stands.designated
      exact .inl (.body stands)
  | @body record id behind rest node stands =>
    have here := stands.get?_eq
    simp only [Receiver.step, here]
    cases (visit spot bro record none node.value d.world).1 with
    | error e => exact .inr rfl
    | ok => exact .inl (.increment (stands.update _))
  | @increment record id behind rest node stands =>
    have here := stands.get?_eq
    simp only [Receiver.step, here, Option.isSome_some, if_true]
    exact .inl (.test stands.step)

end Receiver

/-- A reset that spares the loop's node puts one node more ahead of it, or none. -/
theorem Dispotcher.reset_at (spot : Spot S) (fault : Option Exn) (feature : String) {dsp : Dispotcher S}
    {id : Nat} {behind rest : List (Node (MonitoredFeature S))} {node : Node (MonitoredFeature S)}
    (stands : dsp._features.At (some id) behind (node :: rest))
    (spares : ∀ x, dsp.scan feature = some x → id ≠ x.id) :
    ∃ behind' rest', (dsp.reset spot fault feature).2._features.At (some id) behind' (node :: rest') ∧
      rest'.length ≤ rest.length + 1 := by
  cases found : dsp.scan feature with
  | none => exact ⟨behind, rest, by simpa [Dispotcher.reset,found] using stands, Nat.le_succ _⟩
  | some x =>
    obtain ⟨behind',rest',erased,fewer⟩ := stands.erase_spares (NodeList.find?_mem found).1 (spares x found)
    cases fault with
    | some e => exact ⟨behind', rest', by simpa [Dispotcher.reset,found] using erased, by omega⟩
    | none =>
      have added := erased.emplace_back (.new spot feature x.value._bro_type (x.value.config spot))
      refine ⟨behind', rest' ++ [_], by simpa [Dispotcher.reset,found] using added, ?_⟩
      simpa using fewer

theorem Dispotcher.reset_remaining (spot : Spot S) (fault : Option Exn) (feature : String) {dsp : Dispotcher S}
    {loop : Loop R} {n : Nat} (remaining : Remaining dsp._features loop n)
    (spares : ∀ x, dsp.scan feature = some x → loop.iterator ≠ some x.id) :
    ∃ m ≤ n + 3, Remaining (dsp.reset spot fault feature).2._features loop m := by
  cases remaining with
  | idle => exact ⟨0, Nat.zero_le _, .idle⟩
  | @test record it behind ahead stands =>
    cases it with
    | none => exact ⟨1, by omega, .test (NodeList.at_end _)⟩
    | some id =>
      obtain ⟨node,rest,rfl,_⟩ := stands.designated
      obtain ⟨_,_,left,more⟩ := reset_at spot fault feature stands
        (fun x found same => spares x found (congrArg some same))
      exact ⟨_, by simp only [List.length_cons]; omega, .test left⟩
  | @body record id behind rest node stands =>
    obtain ⟨_,_,left,more⟩ := reset_at spot fault feature stands
      (fun x found same => spares x found (congrArg some same))
    exact ⟨_, by omega, .body left⟩
  | @increment record id behind rest node stands =>
    obtain ⟨_,_,left,more⟩ := reset_at spot fault feature stands
      (fun x found same => spares x found (congrArg some same))
    exact ⟨_, by omega, .increment left⟩

/-- The turns of the loop. -/
def Turn.receives : Turn R → Bool
  | .receiver => true
  | _ => false

/-- The Reset calls. -/
def Turn.resets : Turn R → Bool
  | .bus msg => Dbuspotcher.dispatch msg = some .Reset
  | _ => false

namespace Process

variable (spot : Spot S) (bro : Broccoli R) (platform : Platform) {p : Process S R} {n : Nat}

def Remaining (p : Process S R) (n : Nat) : Prop := Loop.Remaining p.dsp._features p.receiver.loop n

theorem receiver_remaining (running : p.ended = none) (remaining : p.Remaining (n + 1)) :
    (p.next spot bro platform .receiver).Remaining n ∨
    (p.next spot bro platform .receiver).receiver.loop = .idle := by
  obtain ⟨r,conn,_⟩ := p
  cases running
  exact Receiver.step_remaining spot bro remaining

theorem arrive_busy_remaining (running : p.ended = none) (remaining : p.Remaining (n + 1)) (record : R) :
    (p.next spot bro platform (.arrive record)).Remaining (n + 1) := by
  obtain ⟨⟨d,loop⟩,conn,ended⟩ := p
  cases running
  cases loop with
  | idle => cases remaining
  | _ => exact remaining

theorem bus_remaining (running : p.ended = none) (remaining : p.Remaining n) {msg : DBusMessage}
    (spares : p.Spares (.bus msg)) : ∃ m, (p.next spot bro platform (.bus msg)).Remaining m ∧
      m ≤ n + if (Turn.bus msg : Turn R).resets then 3 else 0 := by
  obtain ⟨dsp,loop⟩ := next_bus spot bro platform running msg
  simp only [Remaining, Process.dsp, loop, dsp]
  unfold Dbuspotcher.effect
  split
  · next feature resets named =>
    obtain ⟨m,more,left⟩ := Dispotcher.reset_remaining spot (platform.reset_fault p.conn.attempts) feature
      remaining (fun x found => spares running resets feature x named found)
    exact ⟨m, left, by simpa [Turn.resets,resets] using more⟩
  · exact ⟨n, remaining, Nat.le_add_right _ _⟩

/-- At some point of the run the loop is left, or the process is over. -/
def Returns (p : Process S R) (turns : List (Turn R)) : Prop := ∃ before after, turns = before ++ after ∧
  ((p.run spot bro platform before).receiver.loop = .idle ∨ (p.run spot bro platform before).ended ≠ none)

variable {spot bro platform}

theorem returns_now {turns : List (Turn R)} (stops : p.receiver.loop = .idle ∨ p.ended ≠ none) :
    Returns spot bro platform p turns := ⟨[], turns, rfl, stops⟩

theorem returns_later {turn : Turn R} {rest : List (Turn R)}
    (returns : Returns spot bro platform (p.next spot bro platform turn) rest) :
    Returns spot bro platform p (turn :: rest) := by
  obtain ⟨before,after,rfl,stops⟩ := returns
  exact ⟨turn :: before, after, rfl, stops⟩

/-- Each turn of the loop takes a step off, each Reset puts three on at most. -/
theorem returns_within (turns : List (Turn R)) (remaining : p.Remaining n)
    (spared : Runs.Along (next spot bro platform) Spares p turns)
    (enough : n + 3*turns.countP Turn.resets ≤ turns.countP Turn.receives) :
    Returns spot bro platform p turns := by
  induction turns generalizing p n with
  | nil =>
    obtain rfl : n = 0 := by simpa using enough
    exact returns_now (.inl remaining.idle_of_zero)
  | cons turn rest ih =>
    obtain ⟨spares,later⟩ := spared
    simp only [List.countP_cons] at enough
    by_cases running : p.ended = none
    · cases n with
      | zero => exact returns_now (.inl remaining.idle_of_zero)
      | succ n =>
        cases turn with
        | arrive record =>
          refine returns_later (ih (arrive_busy_remaining spot bro platform running remaining record) later ?_)
          simpa [Turn.resets,Turn.receives] using enough
        | receiver =>
          rcases receiver_remaining spot bro platform running remaining with left | idle
          · refine returns_later (ih left later ?_)
            simp [Turn.resets,Turn.receives] at enough
            omega
          · exact returns_later (returns_now (.inl idle))
        | bus msg =>
          obtain ⟨m,left,more⟩ := bus_remaining spot bro platform running remaining spares
          refine returns_later (ih left later ?_)
          have hears : (Turn.bus msg : Turn R).receives = false := rfl
          simp only [hears] at enough
          split at more <;> simp_all <;> omega
    · exact returns_now (.inr running)

end Process

open Process in
/-- For every list, every record and every interleaving in which no Reset takes the loop's
node: `callback` has returned, or the process is over, by the time the loop has had three turns
for each feature and each Reset call and one more. -/
theorem callback_returns_despite_resets (spot : Spot S) (bro : Broccoli R) (platform : Platform)
    {p : Process S R} (idle : p.receiver.loop = .idle) (record : R) (turns : List (Turn R))
    (spared : Runs.Along (Process.next spot bro platform) Spares
      (p.next spot bro platform (.arrive record)) turns)
    (enough : 3*(p.dsp.size + turns.countP Turn.resets) + 1 ≤ turns.countP Turn.receives) :
    ∃ before after, turns = before ++ after ∧
      (((p.next spot bro platform (.arrive record)).run spot bro platform before).receiver.loop = .idle ∨
        ((p.next spot bro platform (.arrive record)).run spot bro platform before).ended ≠ none) := by
  by_cases running : p.ended = none
  · have arrived : (p.next spot bro platform (.arrive record)).Remaining (3*p.dsp.size+1) := by
      obtain ⟨r,conn,_⟩ := p
      cases running
      exact Receiver.arrive_remaining record idle
    exact returns_within turns arrived spared (by omega)
  · have still : p.next spot bro platform (.arrive record) = p := by
      obtain ⟨ending,ended⟩ := Option.ne_none_iff_exists'.mp running
      simp [Process.next,ended]
    rw [still]
    exact returns_now (.inr running)

open Process in
/-- `mem` is reset when it has just been passed: ten turns of the loop instead of seven. -/
theorem reset_behind_takes_ten :
    let record : List (String × BroVal) :=
      [("mem", ⟨BRO_TYPE_DOUBLE, 0x4059000000000000⟩), ("swap", ⟨BRO_TYPE_DOUBLE, 0x4059000000000000⟩)]
    let bro := Broccoli.ofFields (fun _ => true)
    let p := (Process.start .twoFeatures).next (.returning 3) bro .calm (.arrive record)
    let turns : List (Turn (List (String × BroVal))) :=
      List.replicate 3 .receiver ++ .bus (.call "bro.spot.Spot" "Reset" [.string "mem"]) :: List.replicate 7 .receiver
    ∃ before after, turns = before ++ after ∧
      ((p.run (.returning 3) bro .calm before).receiver.loop = .idle ∨
        (p.run (.returning 3) bro .calm before).ended ≠ none) := by
  intro record bro p turns
  have spared : Runs.Along (Process.next (.returning 3) bro .calm) Spares p turns := by decide +kernel
  exact callback_returns_despite_resets (.returning 3) bro .calm rfl record turns spared (by decide)

/-- The record has a value of the feature's type. -/
def Broccoli.Reads (bro : Broccoli R) (record : R) (f : MonitoredFeature S) : Prop :=
  (bro.bro_record_get_named_val record f._name f._bro_type).1.isSome = true

instance (bro : Broccoli R) (record : R) (f : MonitoredFeature S) : Decidable (bro.Reads record f) :=
  inferInstanceAs (Decidable (_ = true))

/-- A value that was read can be read again. -/
theorem reads_observe (spot : Spot S) {bro : Broccoli R} {record : R} {f : MonitoredFeature S}
    (reads : bro.Reads record f) : bro.Reads record (observe spot bro record f) := by
  obtain ⟨value,stored,_,looked⟩ := bro.lookup_some reads
  have again := bro.present record f._name value.tag value stored (.inr rfl)
  simp only [Broccoli.Reads, observe, looked, again, Option.isSome_some]

/-- A Reset call as a client makes it. -/
def resetCall (feature : String) : DBusMessage := .call "bro.spot.Spot" "Reset" [.string feature]

theorem dispatch_resetCall (feature : String) : Dbuspotcher.dispatch (resetCall feature) = some .Reset :=
  (Dbuspotcher.dispatch_eq_some_iff (resetCall feature) .Reset).mpr rfl

namespace Process

/-- The loop before its end test, the nodes behind and ahead of it, all of which can be read. -/
structure Sweeps (bro : Broccoli R) (record : R) (p : Process S R)
    (behind ahead : List (Node (MonitoredFeature S))) : Prop where
  running : p.ended = none
  testing : ∃ it, p.receiver.loop = .test record it ∧ p.dsp._features.At it behind ahead
  reads : ∀ node ∈ behind ++ ahead, bro.Reads record node.value

variable (spot : Spot S) {bro : Broccoli R} (platform : Platform) {p : Process S R} {record : R}
  {behind rest : List (Node (MonitoredFeature S))} {node b : Node (MonitoredFeature S)}

/-- Three turns of the loop bring the record to the first feature ahead. -/
theorem Sweeps.visit (allocated : ∀ n, bro.event_allocated n = true)
    (sweeps : Sweeps bro record p behind (node :: rest)) :
    Sweeps bro record (p.run spot bro platform (List.replicate 3 .receiver))
      (behind ++ [⟨node.id, observe spot bro record node.value⟩]) rest := by
  obtain ⟨running,⟨it,testing,stands⟩,reads⟩ := sweeps
  obtain ⟨r,conn,_⟩ := p
  cases running
  have here : bro.Reads record node.value := reads node (by simp)
  obtain rfl : it = some node.id := stands.points
  have turned : (⟨r,conn,none⟩ : Process S R).run spot bro platform (List.replicate 3 .receiver) =
      ⟨((r.step spot bro).step spot bro).step spot bro, conn, none⟩ := rfl
  have lap := Receiver.three_steps spot bro testing stands
  rw [turned, lap, Serial.visit_returns spot allocated here, visit_feature]
  refine ⟨rfl, ⟨_, rfl, (stands.update _).step⟩, fun other member => ?_⟩
  simp only [List.mem_append, List.mem_cons, List.not_mem_nil, or_false] at reads member
  rcases member with (old | rfl) | later
  · exact reads other (.inl old)
  · exact reads_observe spot here
  · exact reads other (.inr (.inr later))

/-- A Reset of the feature just passed, when it is the only one: the loop has to pass it again. -/
theorem Sweeps.reset (accepted : ∀ n, platform.send n = true) (built : ∀ n, platform.reset_fault n = none)
    (sweeps : Sweeps bro record p [b] (node :: rest)) :
    p.Spares (.bus (resetCall b.value._name)) ∧
    ∃ again, Sweeps bro record (p.next spot bro platform (.bus (resetCall b.value._name))) []
      (node :: (rest ++ [again])) := by
  obtain ⟨running,⟨it,testing,stands⟩,reads⟩ := sweeps
  obtain rfl : it = some node.id := stands.points
  have first : p.dsp.scan b.value._name = some b := by
    simp [Dispotcher.scan,NodeList.find?,stands.split]
  constructor
  · intro _ _ feature found named scanned points
    cases named
    obtain rfl := Option.some.inj (first.symm.trans scanned)
    have apart := stands.apart (List.mem_singleton_self b) (List.mem_cons_self ..)
    rw [testing] at points
    exact apart (Option.some.inj points).symm
  · obtain ⟨dsp,loop⟩ := next_bus spot bro platform running (resetCall b.value._name)
    have effect : Dbuspotcher.effect spot platform (resetCall b.value._name) p.listener.dbs =
        (p.dsp.reset spot none b.value._name).2 := by
      simp only [Dbuspotcher.effect, dispatch_resetCall, built]
      rfl
    have goes_on := (consume_step spot accepted built (l := p.listener) running (resetCall b.value._name)).2
    have others : isKill (resetCall b.value._name) = false := rfl
    rw [others] at goes_on
    rw [← next_bus_ended spot bro platform running] at goes_on
    have nodes : (p.dsp.reset spot none b.value._name).2._features.nodes = _ := Serial.reset_nodes first none
    simp only [stands.split, List.singleton_append, List.eraseP_cons_of_pos, decide_true, Serial.appended] at nodes
    refine ⟨⟨p.dsp._features.next_id, Dispotcher.replacement spot b.value⟩, goes_on,
      ⟨some node.id, loop.trans testing, ?_, rfl⟩, fun other member => ?_⟩
    · rw [Process.dsp, dsp, effect, nodes]
      rfl
    · simp only [List.nil_append, ← List.cons_append] at member
      rcases List.mem_append.mp member with old | new
      · exact reads other (List.mem_cons_of_mem b old)
      · obtain rfl := List.mem_singleton.mp new
        exact reads b (List.mem_cons_self ..)

end Process

end BroSpotd
