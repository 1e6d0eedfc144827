import BroSpotd.Dbuspotcher

/-! One call, one reply. `Requested` says what a handled call is owed; `Answered` that
handling it sends this and nothing else. A call with an unknown feature and every Reset of
a feature get the prepared empty reply as a second one. -/
namespace BroSpotd

open Dbuspotcher

variable {S : Type} (spot : Spot S) (platform : Platform)

/-- The single string of an error reply. -/
def IsError (args : List DBusArg) : Prop := ∃ text, args = [.string ("[ERROR] " ++ text)]

/-- An error, unless the message names a monitored feature, which decides the result. -/
def OwedFor (dsp : Dispotcher S) (msg : DBusMessage) (result : MonitoredFeature S → List DBusArg → Prop)
    (args : List DBusArg) : Prop :=
  match msg.feature.bind dsp.lookup with
  | some f => result f args
  | none => IsError args

def Requested (dsp : Dispotcher S) (msg : DBusMessage) : Method → List DBusArg → Prop
  | .Features => fun args => args = dsp.names.map .string
  | .Status => OwedFor dsp msg (fun f args => args = statusArgs (f.status spot))
  | .Config => OwedFor dsp msg (fun f args => args = configArgs (f.config spot))
  | .Reset => OwedFor dsp msg (fun _ args => ¬ IsError args)
  | .Introspect => fun args =>
      ∃ text, platform.files introspection_path = some text ∧ args = [.string text]
  | .Kill => fun args => args = [.string "Stopping the daemon"]

/-- Consuming the message sends one reply to it, with what is requested, and no more. -/
def Answered (l : Listener S) (msg : DBusMessage) : Prop :=
  ∃ m args, dispatch msg = some m ∧ Requested spot platform l.dbs._dsp msg m args ∧
    (l.consume spot platform msg).dbs._conn.sent = l.dbs._conn.sent ++ [msg.new_method_return args]

/-- The calls that `listen` gets right: not a Reset of a named feature, no unknown feature,
for Config zeros after the four booleans, and for Introspect a file at the fixed path. -/
def Untroubled (l : Listener S) (msg : DBusMessage) : Prop :=
  match dispatch msg, msg.feature with
  | some .Status, some feature => feature ∈ l.dbs._dsp.names
  | some .Config, some feature => feature ∈ l.dbs._dsp.names ∧
      ∀ field ∈ booleanFields, platform.beside l.dbs._conn.attempts field = 0
  | some .Reset, some _ => False
  | some .Introspect, _ => (platform.files introspection_path).isSome = true
  | _, _ => True

/-- A message that `listen` still gets to handle. -/
def Handled (l : Listener S) (msg : DBusMessage) : Prop :=
  l.ended = none ∧ (dispatch msg).isSome = true

section Accepted

variable {platform} (accepted : ∀ n, platform.send n = true)
include accepted

theorem send_accepted (reply : Reply) (extra_info : String) (dbs : Dbuspotcher S) :
    _send_flush_unref platform reply extra_info dbs =
      (.ok (), ⟨dbs._dsp, dbs._conn.attempts + 1, dbs._conn.sent ++ [reply]⟩) := by
  simp [_send_flush_unref,accepted]

/-- After an exception that was caught, the error reply is followed by the prepared one;
after any other, nothing is sent. -/
theorem caught_then_send (msg : DBusMessage) (e : Exn) (extra_info : String) (dbs : Dbuspotcher S) :
    let sent := (andThen (caught platform msg e)
      (_send_flush_unref platform (msg.new_method_return []) extra_info) dbs).2._conn.sent
    sent = dbs._conn.sent ∨
      ∃ what, sent = dbs._conn.sent ++
        [msg.new_method_return [.string ("[ERROR] " ++ what)], msg.new_method_return []] := by
  cases e with
  | invalid_argument what =>
    refine .inr ⟨what, ?_⟩
    simp [andThen,caught,error,send_accepted accepted]
  | _ => exact .inl rfl

/-- Two replies or none are not one. -/
theorem caught_not_one (msg : DBusMessage) (e : Exn) (extra_info : String) (dbs : Dbuspotcher S)
    (one : Reply) : (andThen (caught platform msg e)
      (_send_flush_unref platform (msg.new_method_return []) extra_info) dbs).2._conn.sent ≠
        dbs._conn.sent ++ [one] := by
  rcases caught_then_send accepted msg e extra_info dbs with none_sent | ⟨what,two_sent⟩
  · simp [none_sent]
  · simp [two_sent]

end Accepted

/-- The Spot methods in general: one reply of the requested kind is sent exactly when no
feature is named or the named one is answered so. -/
theorem with_feature_one_iff {platform : Platform} (accepted : ∀ n, platform.send n = true)
    (msg : DBusMessage) (answer : String → Handler S) (dbs : Dbuspotcher S)
    (result : MonitoredFeature S → List DBusArg → Prop) :
    (∃ args, OwedFor dbs._dsp msg result args ∧
      (with_feature platform msg answer dbs).2._conn.sent = dbs._conn.sent ++ [msg.new_method_return args]) ↔
    ∀ feature, msg.feature = some feature → ∃ args, OwedFor dbs._dsp msg result args ∧
      (answer feature dbs).2._conn.sent = dbs._conn.sent ++ [msg.new_method_return args] := by
  cases named : msg.feature with
  | none =>
    obtain ⟨text,sends⟩ := with_feature_unnamed platform named answer
    refine iff_of_true ⟨[.string ("[ERROR] " ++ text)], ?_, ?_⟩ (by simp)
    · rw [OwedFor, named]
      exact ⟨text,rfl⟩
    · rw [sends, error, send_accepted accepted]
  | some feature =>
    rw [with_feature_named platform named]
    simp

/-- Status and Config: the one reply takes a monitored feature whose arguments come out as
they are wanted. -/
theorem query_one_iff {platform : Platform} (accepted : ∀ n, platform.send n = true) (msg : DBusMessage)
    (args : (String → BitVec 24) → MonitoredFeature S → List DBusArg) (title : String)
    (wanted : MonitoredFeature S → List DBusArg) (dbs : Dbuspotcher S) :
    (∃ out, OwedFor dbs._dsp msg (fun f out => out = wanted f) out ∧
      (query platform msg args title dbs).2._conn.sent = dbs._conn.sent ++ [msg.new_method_return out]) ↔
    ∀ feature, msg.feature = some feature → ∃ f, dbs._dsp.lookup feature = some f ∧
      args (platform.beside dbs._conn.attempts) f = wanted f := by
  rw [query, with_feature_one_iff accepted]
  refine forall₂_congr (fun feature named => ?_)
  cases found : dbs._dsp.lookup feature with
  | none => exact iff_of_false (fun ⟨_,_,sent⟩ => caught_not_one accepted _ _ _ _ _ sent) (by simp)
  | some f => simp [OwedFor,named,found,send_accepted accepted,DBusMessage.new_method_return]

theorem status_one_iff {platform : Platform} (accepted : ∀ n, platform.send n = true) (msg : DBusMessage)
    (dbs : Dbuspotcher S) :
    (∃ args, Requested spot platform dbs._dsp msg .Status args ∧
      (reply_spotstatus spot platform msg dbs).2._conn.sent =
        dbs._conn.sent ++ [msg.new_method_return args]) ↔
    ∀ feature, msg.feature = some feature → feature ∈ dbs._dsp.names := by
  rw [spotstatus_query, Requested, query_one_iff accepted]
  simp only [append_spot_status_eq, and_true, ← Dispotcher.lookup_isSome_iff, Option.isSome_iff_exists]

theorem config_one_iff {platform : Platform} (accepted : ∀ n, platform.send n = true) (msg : DBusMessage)
    (dbs : Dbuspotcher S) :
    (∃ args, Requested spot platform dbs._dsp msg .Config args ∧
      (reply_spotconfig spot platform msg dbs).2._conn.sent =
        dbs._conn.sent ++ [msg.new_method_return args]) ↔
    ∀ feature, msg.feature = some feature → feature ∈ dbs._dsp.names ∧
      ∀ field ∈ booleanFields, platform.beside dbs._conn.attempts field = 0 := by
  rw [spotconfig_query, Requested, query_one_iff accepted]
  simp only [append_spot_config_iff, exists_and_right, ← Dispotcher.lookup_isSome_iff, Option.isSome_iff_exists]

/-- A Reset of a named feature sends two replies, or none where its exception escapes. -/
theorem reset_one_iff {platform : Platform} (accepted : ∀ n, platform.send n = true) (msg : DBusMessage)
    (dbs : Dbuspotcher S) :
    (∃ args, Requested spot platform dbs._dsp msg .Reset args ∧
      (reply_reset spot platform msg dbs).2._conn.sent =
        dbs._conn.sent ++ [msg.new_method_return args]) ↔ msg.feature = none := by
  rw [reply_reset, Requested, with_feature_one_iff accepted]
  cases named : msg.feature with
  | none => simp
  | some feature =>
    refine iff_of_false (fun one => ?_) (by simp)
    obtain ⟨args,_,sent⟩ := one feature rfl
    rcases outcome : dbs._dsp.reset spot (platform.reset_fault dbs._conn.attempts) feature with
      ⟨e | _, dsp⟩
    · rw [outcome] at sent
      exact caught_not_one accepted msg e _ ⟨dsp,dbs._conn⟩ _ sent
    · simp [outcome,andThen,reply,send_accepted accepted] at sent

theorem answered_iff {platform : Platform} (accepted : ∀ n, platform.send n = true) {l : Listener S}
    {msg : DBusMessage} (handled : Handled l msg) :
    Answered spot platform l msg ↔ Untroubled platform l msg := by
  obtain ⟨running,known⟩ := handled
  obtain ⟨m,dispatched⟩ := Option.isSome_iff_exists.mp known
  have only : Answered spot platform l msg ↔ ∃ args, Requested spot platform l.dbs._dsp msg m args ∧
      (handle spot platform msg l.dbs).2._conn.sent = l.dbs._conn.sent ++ [msg.new_method_return args] := by
    simp [Answered,Listener.consume_dbs spot platform running,dispatched]
  rw [only, handle, dispatched, Untroubled, dispatched]
  cases m with
  | Features => simp [Requested,reply_features,send_accepted accepted]
  | Status =>
    rw [status_one_iff spot accepted]
    cases msg.feature <;> simp
  | Config =>
    rw [config_one_iff spot accepted]
    cases msg.feature <;> simp
  | Reset =>
    rw [reset_one_iff spot accepted]
    cases msg.feature <;> simp
  | Introspect =>
    cases held : platform.files introspection_path with
    | none => simp [Requested,held]
    | some text =>
      refine iff_of_true ⟨_, ⟨text,held,rfl⟩, ?_⟩ rfl
      simp [reply_introspection,reply,read_file,held,send_accepted accepted]
  | Kill => simp [Requested,reply,send_accepted accepted]

/-- In a run of `listen` on any messages, all sends succeeding: every handled call up to the
first Kill is answered by one reply with what is requested exactly when each of them is
untroubled in the state it meets. -/
theorem one_reply_iff_untroubled (accepted : ∀ n, platform.send n = true) (l : Listener S)
    (messages : List DBusMessage) :
    Runs.Along (Listener.consume spot platform)
        (fun l msg => Handled l msg → Answered spot platform l msg) l messages ↔
      Runs.Along (Listener.consume spot platform)
        (fun l msg => Handled l msg → Untroubled platform l msg) l messages :=
  Runs.along_congr (fun _ _ => forall_congr' (answered_iff spot accepted)) l messages

def Listener.monitoring (name : String) : Listener (SpotConfig × List Double) where
  dbs := ⟨.ofFeatures [.new (.returning 3) name BRO_TYPE_DOUBLE .shipped], ⟨0,[]⟩⟩
  ended := none

theorem status_of_mem_answered :
    Runs.Along (Listener.consume (.returning 3) .calm)
      (fun l msg => Handled l msg → Answered (.returning 3) .calm l msg) (.monitoring "mem")
      [.call "bro.spot.Spot" "Status" [.string "mem"], .call "bro.spot.Common" "Kill" []] :=
  (one_reply_iff_untroubled (.returning 3) .calm (fun _ => rfl) (.monitoring "mem")
    [.call "bro.spot.Spot" "Status" [.string "mem"], .call "bro.spot.Common" "Kill" []]).mpr
    ⟨fun _ => (by decide : "mem" ∈ (Listener.monitoring "mem").dbs._dsp.names), fun _ => trivial, trivial⟩

/-- Status of an unknown feature: the error is followed by the empty reply. -/
theorem unknown_status_answered_twice :
    let msg := DBusMessage.call "bro.spot.Spot" "Status" [.string "swap"]
    let l := Listener.monitoring "mem"
    Handled l msg ∧
    (l.listen (.returning 3) .calm [msg]).dbs._conn.sent.map Reply.args =
      [[.string "[ERROR] The feature 'swap' is unknown\n"], []] ∧
    ¬ Answered (.returning 3) .calm l msg := by
  refine ⟨⟨rfl,by decide⟩, by decide, ?_⟩
  rintro ⟨m,args,_,_,sent⟩
  have lengths := congrArg List.length sent
  exact absurd lengths (by simp only [List.length_append, List.length_singleton]; decide)

end BroSpotd
