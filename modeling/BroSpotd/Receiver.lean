import BroSpotd.Callback
import BroSpotd.Library.Cursor

/-! The Broccoli thread, one step of `callback`'s loop at a time: the end test, the body on
`*it`, the increment. Undisturbed, the steps of a record make up the whole `callback`. -/
namespace BroSpotd

variable {S R : Type}

/-- Where the loop is. -/
inductive Loop (R : Type) where
  | idle
  | test (record : R) (it : Option Nat)
  | body (record : R) (it : Nat)
  | increment (record : R) (it : Nat)

namespace Loop

def iterator : Loop R → Option Nat
  | .idle => none
  | .test _ it => it
  | .body _ it => some it
  | .increment _ it => some it

/-- The node that the next step dereferences or increments. -/
def designated : Loop R → Option Nat
  | .body _ it => some it
  | .increment _ it => some it
  | _ => none

theorem iterator_of_designated {loop : Loop R} {id : Nat} (next : loop.designated = some id) :
    loop.iterator = some id := by
  cases loop with
  | idle => cases next
  | test record it => cases next
  | body record it => exact next
  | increment record it => exact next

end Loop

/-- The thread and what it works on. -/
structure Receiver (S R : Type) where
  daemon : Daemon S
  loop : Loop R

namespace Receiver

/-- The iterator is the end or a node of the list, at every point of the loop. -/
def IteratorValid (r : Receiver S R) : Prop :=
  ∀ id, r.loop.iterator = some id → id ∈ r.daemon.dsp._features.ids

/-- Broccoli calls `callback` when the last call has returned. -/
def arrive (record : R) (r : Receiver S R) : Receiver S R :=
  match r.loop with
  | .idle =>
    { daemon := { r.daemon with nb_events := r.daemon.nb_events + 1 }
      loop := .test record r.daemon.dsp._features.begin_ }
  | _ => r

/-- One step of the loop. A node that is gone has no next step. -/
def step (spot : Spot S) (bro : Broccoli R) (r : Receiver S R) : Receiver S R :=
  match r.loop with
  | .idle => r
  | .test _ none => { r with loop := .idle }
  | .test record (some it) => { r with loop := .body record it }
  | .body record it =>
    match r.daemon.dsp._features.get? it with
    | none => r
    | some node =>
      let out := visit spot bro record none node.value r.daemon.world
      { daemon :=
          { r.daemon with
            dsp := ⟨r.daemon.dsp._features.update it out.2.1⟩
            world := out.2.2 }
        loop := match out.1 with
          | .ok () => .increment record it
          | .error _ => .idle }
  | .increment record it =>
    if (r.daemon.dsp._features.get? it).isSome then
      { r with loop := .test record (r.daemon.dsp._features.next it) }
    else r

theorem step_idle (spot : Spot S) (bro : Broccoli R) {r : Receiver S R} (idle : r.loop = .idle) :
    step spot bro r = r := by simp [step,idle]

/-- Three steps on a node of the list are the loop body on its value. -/
theorem three_steps (spot : Spot S) (bro : Broccoli R) {r : Receiver S R} {record : R} {id : Nat}
    (testing : r.loop = .test record (some id)) {behind rest : List (Node (MonitoredFeature S))}
    {node : Node (MonitoredFeature S)}
    (stands : r.daemon.dsp._features.At (some id) behind (node :: rest)) :
    let out := visit spot bro record none node.value r.daemon.world
    let list := r.daemon.dsp._features.update id out.2.1
    step spot bro (step spot bro (step spot bro r)) =
      { daemon := { r.daemon with dsp := ⟨list⟩, world := out.2.2 }
        loop := match out.1 with
          | .ok () => .test record (list.next id)
          | .error _ => .idle } := by
  have here := stands.get?_eq
  have still := (stands.update (visit spot bro record none node.value r.daemon.world).2.1).get?_eq
  simp only [step, testing, here]
  cases (visit spot bro record none node.value r.daemon.world).1 <;> simp [still]

/-- From an end test on, the loop sweeps the nodes ahead. -/
theorem steps_sweep (spot : Spot S) (bro : Broccoli R) (record : R)
    (ahead : List (Node (MonitoredFeature S))) {r : Receiver S R} {it : Option Nat}
    (testing : r.loop = .test record it) {behind : List (Node (MonitoredFeature S))}
    (stands : r.daemon.dsp._features.At it behind ahead) :
    let out := Sweep.sweep (NodeList.nodeBody (visit spot bro record none)) ahead r.daemon.world
    let last := (step spot bro)^[3*ahead.length+1] r
    last.loop = .idle ∧ last.daemon.nb_events = r.daemon.nb_events ∧ last.daemon.world = out.2.2 ∧
    last.daemon.dsp._features.nodes = behind ++ out.2.1 ∧
    last.daemon.dsp._features.next_id = r.daemon.dsp._features.next_id := by
  induction ahead generalizing r it behind with
  | nil =>
    obtain rfl : it = none := stands.points
    have ends : step spot bro r = { r with loop := .idle } := by simp [step,testing]
    exact ⟨by simp [ends], by simp [ends], by simp [ends], by simp [ends,stands.split], by simp [ends]⟩
  | cons node rest ih =>
    obtain rfl : it = some node.id := stands.points
    have lap := three_steps spot bro testing stands
    have turned : (step spot bro)^[3*(node :: rest).length+1] r =
        (step spot bro)^[3*rest.length+1] (step spot bro (step spot bro (step spot bro r))) := rfl
    rw [turned]
    rcases ran : visit spot bro record none node.value r.daemon.world with ⟨e | _, f, w⟩
    · simp only [ran] at lap
      have swept : NodeList.nodeBody (visit spot bro record none) node r.daemon.world =
          (.error e, { node with value := f }, w) := by simp [NodeList.nodeBody,Sweep.lift,ran]
      rw [Sweep.sweep_cons_error swept, lap, Function.iterate_fixed (step_idle spot bro rfl)]
      exact ⟨rfl,rfl,rfl,stands.update_nodes f,rfl⟩
    · simp only [ran] at lap
      have swept : NodeList.nodeBody (visit spot bro record none) node r.daemon.world =
          (.ok (), { node with value := f }, w) := by simp [NodeList.nodeBody,Sweep.lift,ran]
      rw [Sweep.sweep_cons_ok swept, lap]
      let moved : Receiver S R :=
        ⟨{ r.daemon with dsp := ⟨r.daemon.dsp._features.update node.id f⟩, world := w },
          .test record ((r.daemon.dsp._features.update node.id f).next node.id)⟩
      obtain ⟨idle,counted,world,nodes,next_id⟩ := ih (r := moved) rfl (stands.update f).step
      exact ⟨idle, counted, world, by rw [nodes, List.append_assoc]; rfl, next_id⟩

/-- Without another thread, the steps of a record are one `callback`. -/
theorem undisturbed_is_callback (spot : Spot S) (bro : Broccoli R) (record : R) (d : Daemon S) :
    (step spot bro)^[3*d.dsp.size+1] (arrive record ⟨d,.idle⟩) = ⟨(callback spot bro record d).2, .idle⟩ := by
  obtain ⟨idle,counted,world,nodes,next_id⟩ := steps_sweep spot bro record d.dsp._features.nodes
    (r := arrive record ⟨d,.idle⟩) rfl d.dsp._features.at_begin
  generalize last : (step spot bro)^[3*d.dsp._features.nodes.length+1] (arrive record ⟨d,.idle⟩) = r at *
  rw [Dispotcher.size, last]
  obtain ⟨⟨nb_events,⟨⟨list,fresh,_,_⟩⟩,w⟩,loop⟩ := r
  cases idle
  cases counted
  cases world
  cases nodes
  cases next_id
  rfl

theorem arrive_valid {r : Receiver S R} (valid : r.IteratorValid) (record : R) :
    (r.arrive record).IteratorValid := by
  obtain ⟨d,loop⟩ := r
  cases loop with
  | idle => exact fun id begins => NodeList.begin_mem begins
  | test record it => exact valid
  | body record it => exact valid
  | increment record it => exact valid

/-- A step of the loop leads its iterator to the end or to a node. -/
theorem step_valid (spot : Spot S) (bro : Broccoli R) {r : Receiver S R} (valid : r.IteratorValid) :
    (r.step spot bro).IteratorValid := by
  obtain ⟨d,loop⟩ := r
  cases loop with
  | idle => exact valid
  | test record it =>
    cases it with
    | none => nofun
    | some it => exact valid
  | body record it =>
    simp only [Receiver.step]
    cases here : d.dsp._features.get? it with
    | none => exact valid
    | some node =>
      dsimp only
      intro id points
      rw [NodeList.ids_update]
      cases ran : (visit spot bro record none node.value d.world).1 with
      | ok => rw [ran] at points; exact valid id points
      | error e => rw [ran] at points; cases points
  | increment record it =>
    simp only [Receiver.step]
    cases here : (d.dsp._features.get? it).isSome with
    | false => exact valid
    | true => exact fun id follows => NodeList.next_mem follows

end Receiver

/-- Two features, `mem` at node 0 and `swap` at node 1. -/
def Daemon.twoFeatures : Daemon (SpotConfig × List Double) :=
  ⟨0, .ofFeatures [.new (.returning 3) "mem" BRO_TYPE_DOUBLE .shipped,
    .new (.returning 3) "swap" BRO_TYPE_DOUBLE .shipped], .initial⟩

end BroSpotd
