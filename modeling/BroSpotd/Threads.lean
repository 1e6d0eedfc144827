import BroSpotd.Dbuspotcher
import BroSpotd.Receiver

/-! The process as `main` runs it: the Broccoli thread in `callback` and the D-Bus thread in
`listen` share one dispatcher without a lock. A message is handled between two steps of the
loop. The loop's iterator lives as long as no Reset takes its node. -/
namespace BroSpotd

variable {S R : Type}

structure Process (S R : Type) where
  receiver : Receiver S R
  conn : DBusConnection
  ended : Option Ending

inductive Turn (R : Type) where
  | arrive (record : R)
  | receiver
  | bus (msg : DBusMessage)

namespace Process

def dsp (p : Process S R) : Dispotcher S := p.receiver.daemon.dsp

def start (d : Daemon S) : Process S R := ⟨⟨d,.idle⟩, ⟨0,[]⟩, none⟩

/-- The D-Bus thread's share of the process. -/
def listener (p : Process S R) : Listener S := ⟨⟨p.dsp,p.conn⟩, p.ended⟩

/-- The process after `exit` or a terminating exception takes no turn of either thread. -/
def next (spot : Spot S) (bro : Broccoli R) (platform : Platform) (p : Process S R) (turn : Turn R) :
    Process S R :=
  if p.ended.isSome then p
  else match turn with
    | .arrive record => { p with receiver := p.receiver.arrive record }
    | .receiver => { p with receiver := p.receiver.step spot bro }
    | .bus msg =>
      let l := p.listener.consume spot platform msg
      { receiver := { p.receiver with daemon := { p.receiver.daemon with dsp := l.dbs._dsp } }
        conn := l.dbs._conn
        ended := l.ended }

def run (spot : Spot S) (bro : Broccoli R) (platform : Platform) (p : Process S R) (turns : List (Turn R)) :
    Process S R := Runs.run (next spot bro platform) p turns

/-- The node that the loop is about to dereference or increment is in the list. -/
def Safe (p : Process S R) : Prop :=
  ∀ id, p.receiver.loop.designated = some id → id ∈ p.dsp._features.ids

/-- The turn is not a Reset of the feature whose node the iterator designates. -/
def Spares (p : Process S R) : Turn R → Prop
  | .bus msg => p.ended = none → Dbuspotcher.dispatch msg = some .Reset →
      ∀ feature node, msg.feature = some feature → p.dsp.scan feature = some node →
        p.receiver.loop.iterator ≠ some node.id
  | _ => True

theorem safe_of_valid {p : Process S R} (valid : p.receiver.IteratorValid) : Safe p :=
  fun id next => valid id (Loop.iterator_of_designated next)

theorem start_valid (d : Daemon S) : (start d : Process S R).receiver.IteratorValid := nofun

end Process

/-- A reset takes the node it finds and no other. -/
theorem Dispotcher.mem_ids_reset_iff (spot : Spot S) (fault : Option Exn) (feature : String)
    (dsp : Dispotcher S) {id : Nat} (member : id ∈ dsp._features.ids) :
    id ∈ (dsp.reset spot fault feature).2._features.ids ↔
      ∀ node, dsp.scan feature = some node → id ≠ node.id := by
  cases found : dsp.scan feature with
  | none => simp [Dispotcher.reset,found,member]
  | some it =>
    have old : id ≠ (dsp._features.erase it.id).next_id := by
      obtain ⟨node,standing,rfl⟩ := List.mem_map.mp member
      exact Nat.ne_of_lt (dsp._features.bounded node standing)
    cases fault with
    | none =>
      simp only [Dispotcher.reset, found, NodeList.ids_emplace_back, List.mem_append, List.mem_singleton,
        NodeList.mem_ids_erase, old, or_false, member, and_true, Option.some.injEq, forall_eq']
    | some e =>
      simp [Dispotcher.reset,found,NodeList.mem_ids_erase,member]

/-- A handled message acts on the shared dispatcher; the loop stays where it is. -/
theorem next_bus (spot : Spot S) (bro : Broccoli R) (platform : Platform) {p : Process S R}
    (running : p.ended = none) (msg : DBusMessage) :
    (p.next spot bro platform (.bus msg)).receiver.daemon.dsp =
        Dbuspotcher.effect spot platform msg p.listener.dbs ∧
      (p.next spot bro platform (.bus msg)).receiver.loop = p.receiver.loop := by
  have consumed := Listener.consume_dbs (l := p.listener) spot platform running msg
  simp only [Process.next, running, Option.isSome_none, Bool.false_eq_true, if_false, and_true]
  rw [consumed, Dbuspotcher.handle_dsp]

theorem next_bus_ended (spot : Spot S) (bro : Broccoli R) (platform : Platform) {p : Process S R}
    (running : p.ended = none) (msg : DBusMessage) :
    (p.next spot bro platform (.bus msg)).ended = (p.listener.consume spot platform msg).ended := by
  simp [Process.next,running]

theorem next_bus_conn (spot : Spot S) (bro : Broccoli R) (platform : Platform) {p : Process S R}
    (running : p.ended = none) (msg : DBusMessage) :
    (p.next spot bro platform (.bus msg)).conn = (Dbuspotcher.handle spot platform msg p.listener.dbs).2._conn := by
  have consumed := Listener.consume_dbs (l := p.listener) spot platform running msg
  simp only [Process.next, running, Option.isSome_none, Bool.false_eq_true, if_false, consumed]

theorem bus_valid_iff (spot : Spot S) (bro : Broccoli R) (platform : Platform) {p : Process S R}
    (running : p.ended = none) (valid : p.receiver.IteratorValid) (msg : DBusMessage) :
    (p.next spot bro platform (.bus msg)).receiver.IteratorValid ↔ p.Spares (.bus msg) := by
  obtain ⟨dsp,loop⟩ := next_bus spot bro platform running msg
  simp only [Receiver.IteratorValid, dsp, loop, Process.Spares, running, true_implies]
  unfold Dbuspotcher.effect
  split
  · next feature resets named =>
    simp only [resets, named, true_implies, Option.some.injEq]
    constructor
    · rintro kept _ node rfl found points
      exact (Dispotcher.mem_ids_reset_iff spot _ feature p.dsp (valid _ points)).mp
        (kept _ points) node found rfl
    · intro spares id points
      apply (Dispotcher.mem_ids_reset_iff spot _ feature p.dsp (valid id points)).mpr
      rintro node found rfl
      exact spares feature node rfl found points
  · next other =>
    -- every other message leaves the list as it is
    apply iff_of_true valid
    intro resets feature node named
    exact absurd named (other feature resets)

/-- A turn keeps the iterator valid exactly when it spares the designated node. -/
theorem next_valid_iff (spot : Spot S) (bro : Broccoli R) (platform : Platform) {p : Process S R}
    (valid : p.receiver.IteratorValid) (turn : Turn R) :
    (p.next spot bro platform turn).receiver.IteratorValid ↔ p.Spares turn := by
  cases running : p.ended with
  | some ending =>
    -- the process is over and no turn is taken
    have still : p.next spot bro platform turn = p := by simp [Process.next,running]
    rw [still]
    apply iff_of_true valid
    cases turn with
    | bus msg => intro goes_on; simp [running] at goes_on
    | _ => trivial
  | none =>
    cases turn with
    | arrive record =>
      apply iff_of_true _ trivial
      simpa [Process.next,running] using Receiver.arrive_valid valid record
    | receiver =>
      apply iff_of_true _ trivial
      simpa [Process.next,running] using Receiver.step_valid spot bro valid
    | bus msg => exact bus_valid_iff spot bro platform running valid msg

/-- The iterator stays valid in every state of a run exactly when no turn of the run resets
the feature that it designates. -/
theorem iterator_valid_iff (spot : Spot S) (bro : Broccoli R) (platform : Platform) {p : Process S R}
    (valid : p.receiver.IteratorValid) (turns : List (Turn R)) :
    (∀ before after, turns = before ++ after →
      (p.run spot bro platform before).receiver.IteratorValid) ↔
      Runs.Along (Process.next spot bro platform) Process.Spares p turns := by
  induction turns generalizing p with
  | nil =>
    refine iff_of_true ?_ trivial
    intro before after split
    obtain ⟨rfl,rfl⟩ := List.append_eq_nil_iff.mp split.symm
    exact valid
  | cons turn rest ih =>
    rw [Runs.along_cons]
    constructor
    · intro each
      have one : (p.next spot bro platform turn).receiver.IteratorValid := each [turn] rest rfl
      refine ⟨(next_valid_iff spot bro platform valid turn).mp one, (ih one).mp ?_⟩
      rintro before after rfl
      exact each (turn :: before) after rfl
    · rintro ⟨spares,along⟩ before after split
      have one := (next_valid_iff spot bro platform valid turn).mpr spares
      cases before with
      | nil => exact valid
      | cons first before =>
        obtain ⟨rfl,rfl⟩ := List.cons.inj split
        exact (ih one).mpr along before after rfl

/-- In every run of the two threads whose turns all spare the iterator's node: in every
state reached, the node that the loop is about to dereference or increment is in the list. -/
theorem loop_holds_member (spot : Spot S) (bro : Broccoli R) (platform : Platform) (d : Daemon S)
    (turns : List (Turn R))
    (spared : Runs.Along (Process.next spot bro platform) Process.Spares (.start d) turns)
    (before after : List (Turn R)) (split : turns = before ++ after) :
    (Process.run spot bro platform (.start d) before).Safe :=
  Process.safe_of_valid
    ((iterator_valid_iff spot bro platform (Process.start_valid d) turns).mpr spared before after split)

theorem reset_of_swap_spares_mem :
    let record : List (String × BroVal) :=
      [("mem", ⟨BRO_TYPE_DOUBLE, 0x4059000000000000⟩), ("swap", ⟨BRO_TYPE_DOUBLE, 0x4059000000000000⟩)]
    let reset := DBusMessage.call "bro.spot.Spot" "Reset" [.string "swap"]
    (Process.run (.returning 3) (Broccoli.ofFields (fun _ => true)) .calm (.start .twoFeatures)
      [.arrive record, .receiver, .bus reset, .receiver]).Safe := by
  refine loop_holds_member (.returning 3) (Broccoli.ofFields (fun _ => true)) .calm .twoFeatures
    [.arrive [("mem", ⟨BRO_TYPE_DOUBLE, 0x4059000000000000⟩), ("swap", ⟨BRO_TYPE_DOUBLE, 0x4059000000000000⟩)],
      .receiver, .bus (.call "bro.spot.Spot" "Reset" [.string "swap"]), .receiver]
    ⟨trivial, trivial, ?_, trivial, trivial⟩ _ [] (List.append_nil _).symm
  intro running resets feature node named found points
  cases named
  have ids := congrArg (Option.map Node.id) found
  rw [Option.map_some, ← points] at ids
  revert ids
  decide

/-- A Reset of `mem` while the loop is about to process `mem`: the iterator is left with an
erased node. -/
theorem reset_of_mem_erases_its_node :
    let record : List (String × BroVal) :=
      [("mem", ⟨BRO_TYPE_DOUBLE, 0x4059000000000000⟩), ("swap", ⟨BRO_TYPE_DOUBLE, 0x4059000000000000⟩)]
    let reset := DBusMessage.call "bro.spot.Spot" "Reset" [.string "mem"]
    ¬ (Process.run (.returning 3) (Broccoli.ofFields (fun _ => true)) .calm (.start .twoFeatures)
      [.arrive record, .receiver, .bus reset]).Safe := by
  intro record reset safe
  exact absurd (safe 0 rfl) (by decide)

end BroSpotd
