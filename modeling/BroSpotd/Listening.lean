import BroSpotd.Dbuspotcher

/-! What a sequence of messages makes of the dispatcher. `applyReset` is the abstract
listener, which knows Reset calls of monitored features and nothing else. While sends and
allocations succeed, `listen` does the same to the dispatcher, and ends by Kill or not at all. -/
namespace BroSpotd

open Dbuspotcher

variable {S : Type} (spot : Spot S)

namespace Dbuspotcher

/-- The interface and the member that `listen` tests for. -/
def Method.header : Method → String × String
  | .Features => ("bro.spot.Common","Features")
  | .Status => ("bro.spot.Spot","Status")
  | .Config => ("bro.spot.Spot","Config")
  | .Reset => ("bro.spot.Spot","Reset")
  | .Introspect => ("org.freedesktop.DBus.Introspectable","Introspect")
  | .Kill => ("bro.spot.Common","Kill")

/-- The members differ, so the order of the tests does not matter. -/
theorem dispatch_eq_some_iff (msg : DBusMessage) (m : Method) :
    dispatch msg = some m ↔ msg.is_method_call m.header.1 m.header.2 = true := by
  constructor
  · intro dispatched
    unfold dispatch at dispatched
    split_ifs at dispatched <;> cases dispatched <;> assumption
  · intro called
    have member : msg.member = some m.header.2 := by
      simp only [DBusMessage.is_method_call, Bool.and_eq_true, decide_eq_true_eq] at called
      exact called.1.2
    have others : ∀ interface other, other ≠ m.header.2 → msg.is_method_call interface other = false := by
      intro interface other apart
      simp [DBusMessage.is_method_call,member,apart.symm]
    cases m <;> simp_all [dispatch,Method.header]

/-- A member function that no exception leaves. -/
def Returns (handler : Handler S) : Prop := ∀ dbs, (handler dbs).1 = .ok ()

theorem returns_andThen {first second : Handler S} (one : Returns first) (two : Returns second) :
    Returns (andThen first second) := by
  intro dbs
  have returned := one dbs
  rcases ran : first dbs with ⟨_ | _, next⟩
  · simp [ran] at returned
  · simpa [andThen,ran] using two next

section Succeeding

variable {platform : Platform} (accepted : ∀ n, platform.send n = true)
include accepted

theorem returns_send (reply : Reply) (extra_info : String) :
    Returns (_send_flush_unref platform reply extra_info : Handler S) := by
  intro dbs
  simp [_send_flush_unref,accepted]

/-- What an unknown name raises is caught. -/
theorem returns_caught_unknown (msg : DBusMessage) (feature : String) :
    Returns (caught platform msg (Dispotcher.unknown feature) : Handler S) :=
  returns_send accepted _ _

/-- An unknown name: the error, then the prepared reply. -/
theorem returns_refusal (msg : DBusMessage) (feature extra_info : String) :
    Returns (andThen (caught platform msg (Dispotcher.unknown feature))
      (_send_flush_unref platform (msg.new_method_return []) extra_info) : Handler S) :=
  returns_andThen (returns_caught_unknown accepted msg feature) (returns_send accepted _ _)

theorem returns_with_feature (msg : DBusMessage) {answer : String → Handler S}
    (returns : ∀ feature, Returns (answer feature)) : Returns (with_feature platform msg answer) := by
  cases named : msg.feature with
  | none =>
    obtain ⟨text,same⟩ := with_feature_unnamed platform named answer
    rw [same]
    apply returns_send accepted
  | some feature =>
    rw [with_feature_named platform named]
    apply returns

theorem returns_query (msg : DBusMessage) (args : (String → BitVec 24) → MonitoredFeature S → List DBusArg)
    (title : String) : Returns (query platform msg args title) := by
  apply returns_with_feature accepted
  intro feature dbs
  dsimp only
  split
  · apply returns_send accepted
  · apply returns_refusal accepted

variable (allocated : ∀ n, platform.reset_fault n = none)
include allocated

theorem returns_reset (msg : DBusMessage) : Returns (reply_reset spot platform msg) := by
  apply returns_with_feature accepted
  intro feature dbs
  apply returns_andThen _ (returns_send accepted _ _)
  rw [allocated]
  cases found : dbs._dsp.lookup feature with
  | none =>
    simp only [Dispotcher.reset_unknown found]
    apply returns_caught_unknown accepted
  | some f =>
    simp only [(Dispotcher.reset_known found spot).1]
    apply returns_send accepted

/-- No handler lets an exception out. -/
theorem returns_handle (msg : DBusMessage) : Returns (handle spot platform msg) := by
  cases dispatched : dispatch msg with
  | none => intro dbs; simp [handle,dispatched]
  | some m =>
    unfold handle
    rw [dispatched]
    cases m with
    | Features => intro dbs; apply returns_send accepted
    | Status => dsimp only; rw [spotstatus_query]; apply returns_query accepted
    | Config => dsimp only; rw [spotconfig_query]; apply returns_query accepted
    | Reset => exact returns_reset spot accepted allocated msg
    | Introspect => apply returns_send accepted
    | Kill => apply returns_send accepted

end Succeeding

end Dbuspotcher

/-- The feature that a message resets: the message is a Reset call of bro.spot.Spot and its
first argument is a string naming a monitored feature. -/
def resetOf (dsp : Dispotcher S) (msg : DBusMessage) : Option String :=
  if msg.is_method_call "bro.spot.Spot" "Reset" then msg.feature.filter (· ∈ dsp.names) else none

/-- The abstract listener. -/
def applyReset (dsp : Dispotcher S) (msg : DBusMessage) : Dispotcher S :=
  match resetOf dsp msg with
  | some feature => (dsp.reset spot none feature).2
  | none => dsp

def isKill (msg : DBusMessage) : Bool := msg.is_method_call "bro.spot.Common" "Kill"

/-- The messages before the first Kill. -/
def beforeKill (messages : List DBusMessage) : List DBusMessage := messages.takeWhile (fun msg => !isKill msg)

/-- A reset of an unknown name does nothing, so the abstract listener does what a message does. -/
theorem effect_eq_applyReset {platform : Platform} (allocated : ∀ n, platform.reset_fault n = none)
    (msg : DBusMessage) (dbs : Dbuspotcher S) :
    effect spot platform msg dbs = applyReset spot dbs._dsp msg := by
  by_cases resets : msg.is_method_call "bro.spot.Spot" "Reset" = true
  · have dispatched : dispatch msg = some .Reset := (dispatch_eq_some_iff msg .Reset).mpr resets
    simp only [effect, dispatched, applyReset, resetOf, if_pos resets, allocated]
    cases named : msg.feature with
    | none => rfl
    | some feature =>
      by_cases known : feature ∈ dbs._dsp.names
      · simp [Option.filter_some,known]
      · have missing : dbs._dsp.lookup feature = none := by
          simpa [← Dispotcher.lookup_isSome_iff] using known
        simp [Option.filter_some,known,Dispotcher.reset_unknown missing]
  · have other : dispatch msg ≠ some .Reset := mt (dispatch_eq_some_iff msg .Reset).mp resets
    simp only [applyReset, resetOf, if_neg resets]
    unfold effect
    split
    · next dispatched _ => exact absurd dispatched other
    · rfl

theorem applyReset_kill (dsp : Dispotcher S) {msg : DBusMessage} (kills : isKill msg = true) :
    applyReset spot dsp msg = dsp := by
  have dispatched : dispatch msg = some .Kill := (dispatch_eq_some_iff msg .Kill).mpr kills
  have other : ¬ msg.is_method_call "bro.spot.Spot" "Reset" = true := by
    intro resets
    have reset : dispatch msg = some .Reset := (dispatch_eq_some_iff msg .Reset).mpr resets
    simp [dispatched] at reset
  simp [applyReset,resetOf,other]

/-- One turn of the loop: the dispatcher takes the abstract step, and only Kill ends. -/
theorem consume_step {platform : Platform} (accepted : ∀ n, platform.send n = true)
    (allocated : ∀ n, platform.reset_fault n = none) {l : Listener S} (running : l.ended = none)
    (msg : DBusMessage) :
    (l.consume spot platform msg).dbs._dsp = applyReset spot l.dbs._dsp msg ∧
    (l.consume spot platform msg).ended = if isKill msg then some (.exit 0) else none := by
  constructor
  · rw [Listener.consume_dbs spot platform running, handle_dsp, effect_eq_applyReset spot allocated]
  · have returned := returns_handle spot accepted allocated msg l.dbs
    have kill : dispatch msg = some .Kill ↔ isKill msg = true := dispatch_eq_some_iff msg .Kill
    simp [Listener.consume,running,returned,kill]

theorem consume_ended {platform : Platform} {l : Listener S} {ending : Ending} (finished : l.ended = some ending)
    (msg : DBusMessage) : l.consume spot platform msg = l := by simp [Listener.consume,finished]

theorem listen_ended {platform : Platform} {l : Listener S} {ending : Ending} (finished : l.ended = some ending)
    (messages : List DBusMessage) : l.listen spot platform messages = l := by
  induction messages with
  | nil => rfl
  | cons msg rest ih => simpa [Listener.listen,consume_ended spot finished msg] using ih

/-- A run of `listen` is a run of the abstract listener up to the first Kill. -/
theorem listen_running {platform : Platform} (accepted : ∀ n, platform.send n = true)
    (allocated : ∀ n, platform.reset_fault n = none) {l : Listener S} (running : l.ended = none)
    (messages : List DBusMessage) :
    (l.listen spot platform messages).dbs._dsp =
      Runs.run (applyReset spot) l.dbs._dsp (beforeKill messages) ∧
    ∀ e, (l.listen spot platform messages).ended ≠ some (.terminate e) := by
  induction messages generalizing l with
  | nil => exact ⟨rfl, by simp [Listener.listen,running]⟩
  | cons msg rest ih =>
    obtain ⟨stepped,ended⟩ := consume_step spot accepted allocated running msg
    have turn : l.listen spot platform (msg :: rest) =
        (l.consume spot platform msg).listen spot platform rest := rfl
    by_cases kills : isKill msg = true
    · -- the process is over and the rest is never read
      rw [if_pos kills] at ended
      rw [turn, listen_ended spot ended, stepped, applyReset_kill spot _ kills]
      simp [beforeKill,kills,ended]
    · rw [if_neg kills] at ended
      obtain ⟨same,quiet⟩ := ih ended
      rw [turn]
      refine ⟨?_, quiet⟩
      rw [same, stepped]
      simp [beforeKill,kills]

/-- Every dispatcher, every finite sequence of messages, all sends and allocations
succeeding: `listen` leaves the dispatcher that the resets of monitored features before the
first Kill make, in their order, and no exception leaves it. -/
theorem only_valid_resets_act (platform : Platform) (accepted : ∀ n, platform.send n = true)
    (allocated : ∀ n, platform.reset_fault n = none) (dsp : Dispotcher S) (conn : DBusConnection)
    (messages : List DBusMessage) :
    let l := Listener.listen spot platform ⟨⟨dsp,conn⟩,none⟩ messages
    l.dbs._dsp = Runs.run (applyReset spot) dsp (beforeKill messages) ∧ ∀ e, l.ended ≠ some (.terminate e) :=
  listen_running spot accepted allocated rfl messages

/-- Status of an unknown feature, a Reset of `mem`, a Reset without argument, Kill, and a
Reset of `swap` that comes too late. -/
theorem reset_of_mem_acts :
    let messages := [DBusMessage.call "bro.spot.Spot" "Status" [.string "cpu"],
      .call "bro.spot.Spot" "Reset" [.string "mem"], .call "bro.spot.Spot" "Reset" [],
      .call "bro.spot.Common" "Kill" [], .call "bro.spot.Spot" "Reset" [.string "swap"]]
    let dsp := Dispotcher.ofFeatures [MonitoredFeature.new (.returning 3) "mem" BRO_TYPE_DOUBLE .shipped,
      .new (.returning 3) "swap" BRO_TYPE_DOUBLE .shipped]
    (Listener.listen (.returning 3) .calm ⟨⟨dsp,⟨0,[]⟩⟩,none⟩ messages).dbs._dsp.names = ["swap","mem"] := by
  intro messages dsp
  have acts := (only_valid_resets_act (.returning 3) .calm (fun _ => rfl) (fun _ => rfl) dsp ⟨0,[]⟩ messages).1
  exact (congrArg Dispotcher.names acts).trans (by decide)

end BroSpotd
