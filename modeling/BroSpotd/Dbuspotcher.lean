import BroSpotd.Dispotcher
import BroSpotd.Library.Bytes
import BroSpotd.Library.Runs
import Mathlib.Data.List.ReduceOption

/-! `Dbuspotcher`: the calls it answers and the replies it makes. libdbus is outside the
repository: a message is its header and arguments, a reply is what the connection is given
to send. What the platform decides is asked by the number of sends so far, which moves on
with every reply. -/
namespace BroSpotd

open LittleEndian

inductive DBusMessageType where
  | method_call
  | method_return
  | error
  | signal
  deriving DecidableEq, Repr

inductive DBusArg where
  | string (value : String)
  | int32 (value : Int32)
  | double (value : Double)
  | boolean (value : Bool)
  | other
  deriving DecidableEq, Repr

structure DBusMessage where
  type : DBusMessageType
  sender : Option String
  serial : UInt32
  interface : Option String
  member : Option String
  args : List DBusArg
  deriving DecidableEq, Repr

/-- A method return. -/
structure Reply where
  destination : Option String
  reply_serial : UInt32
  args : List DBusArg
  deriving DecidableEq, Repr

namespace DBusMessage

/-- A call without interface matches every interface. -/
def is_method_call (msg : DBusMessage) (interface member : String) : Bool :=
  msg.type = .method_call && msg.member = some member &&
    (msg.interface = none || msg.interface = some interface)

/-- A method call as `dbus-send` makes it. -/
def call (interface member : String) (args : List DBusArg) : DBusMessage :=
  ⟨.method_call, some ":1.7", 2, some interface, some member, args⟩

def new_method_return (msg : DBusMessage) (args : List DBusArg) : Reply :=
  ⟨msg.sender, msg.serial, args⟩

/-- The feature that a message names: its first argument, if that is a string. -/
def feature (msg : DBusMessage) : Option String :=
  match msg.args with
  | .string feature :: _ => some feature
  | _ => none

end DBusMessage

/-- `send n` is the outcome of the n-th `dbus_connection_send`; `beside n` are the three
bytes that follow a struct field in memory; `reset_fault n` is what building the
replacement feature raises, if anything. -/
structure Platform where
  send : Nat → Bool
  files : String → Option String
  beside : Nat → String → BitVec 24
  reset_fault : Nat → Option Exn

/-- A platform without failures, files or stray bytes. -/
def Platform.calm : Platform := ⟨fun _ => true, fun _ => none, fun _ _ => 0, fun _ => none⟩

structure DBusConnection where
  attempts : Nat
  sent : List Reply

structure Dbuspotcher (S : Type) where
  _dsp : Dispotcher S
  _conn : DBusConnection

/-- The basic types that a reply is given by address. -/
inductive DBusBasic where
  | INT32
  | DOUBLE
  | BOOLEAN

/-- `dbus_message_iter_append_basic` on the memory from an address on. It takes four bytes
for a boolean, which has to come out as 0 or 1 to be appended. -/
def append_basic : DBusBasic → List Byte → Option DBusArg
  | .INT32, memory => some (.int32 (.ofBitVec (.ofNat 32 (load (memory.take 4)))))
  | .DOUBLE, memory => some (.double ⟨.ofNat 64 (load (memory.take 8))⟩)
  | .BOOLEAN, memory =>
    match load (memory.take 4) with
    | 0 => some (.boolean false)
    | 1 => some (.boolean true)
    | _ => none

/-- The memory at the address of a field: an int of 4 bytes, a double of 8, a bool of 1. -/
def intAt (value : Int32) (beside : BitVec 24) : List Byte :=
  bytes 4 value.toBitVec.toNat ++ bytes 3 beside.toNat
def doubleAt (value : Double) (beside : BitVec 24) : List Byte :=
  bytes 8 value.bits.toNat ++ bytes 3 beside.toNat
def boolAt (value : Bool) (beside : BitVec 24) : List Byte :=
  bytes 1 value.toNat ++ bytes 3 beside.toNat

def append_spot_status (beside : String → BitVec 24) (ss : SpotStatus) : List DBusArg :=
  List.reduceOption [
    append_basic .INT32 (intAt ss.n (beside "n")),
    append_basic .INT32 (intAt ss.ex_up (beside "ex_up")),
    append_basic .INT32 (intAt ss.ex_down (beside "ex_down")),
    append_basic .INT32 (intAt ss.Nt_up (beside "Nt_up")),
    append_basic .INT32 (intAt ss.Nt_down (beside "Nt_down")),
    append_basic .INT32 (intAt ss.al_up (beside "al_up")),
    append_basic .INT32 (intAt ss.al_down (beside "al_down")),
    append_basic .DOUBLE (doubleAt ss.t_up (beside "t_up")),
    append_basic .DOUBLE (doubleAt ss.t_down (beside "t_down")),
    append_basic .DOUBLE (doubleAt ss.z_up (beside "z_up")),
    append_basic .DOUBLE (doubleAt ss.z_down (beside "z_down"))]

def append_spot_config (beside : String → BitVec 24) (sc : SpotConfig) : List DBusArg :=
  List.reduceOption [
    append_basic .DOUBLE (doubleAt sc.q (beside "q")),
    append_basic .BOOLEAN (boolAt sc.bounded (beside "bounded")),
    append_basic .INT32 (intAt sc.max_excess (beside "max_excess")),
    append_basic .BOOLEAN (boolAt sc.alert (beside "alert")),
    append_basic .BOOLEAN (boolAt sc.up (beside "up")),
    append_basic .BOOLEAN (boolAt sc.down (beside "down")),
    append_basic .INT32 (intAt sc.n_init (beside "n_init")),
    append_basic .DOUBLE (doubleAt sc.level (beside "level"))]

namespace Dbuspotcher

variable {S : Type} (spot : Spot S) (platform : Platform)

/-- A member function: its effects stand also when an exception leaves it. -/
abbrev Handler (S : Type) := Dbuspotcher S → Except Exn Unit × Dbuspotcher S

def andThen (first second : Handler S) : Handler S := fun dbs =>
  match first dbs with
  | (.ok (), dbs) => second dbs
  | (.error e, dbs) => (.error e, dbs)

def _send_flush_unref (reply : Reply) (extra_info : String) : Handler S := fun dbs =>
  let conn := { dbs._conn with attempts := dbs._conn.attempts + 1 }
  if platform.send dbs._conn.attempts then (.ok (), { dbs with _conn := { conn with sent := conn.sent ++ [reply] } })
  else (.error (.overflow_error ("[" ++ extra_info ++ "] Reply has not been sent")), { dbs with _conn := conn })

def reply (msg : DBusMessage) (info : String) : Handler S :=
  _send_flush_unref platform (msg.new_method_return [.string info]) "INFO"

def error (msg : DBusMessage) (error_message : String) : Handler S :=
  _send_flush_unref platform (msg.new_method_return [.string ("[ERROR] " ++ error_message)]) "ERROR"

/-- `catch (invalid_argument &e)`; nothing else is caught. -/
def caught (msg : DBusMessage) : Exn → Handler S
  | .invalid_argument what => error platform msg what
  | e => fun dbs => (.error e, dbs)

def reply_features (msg : DBusMessage) : Handler S := fun dbs =>
  _send_flush_unref platform (msg.new_method_return (dbs._dsp.names.map .string)) "FEATURES" dbs

/-- A file that cannot be read gives the empty text. -/
def read_file (file_path : String) : String := (platform.files file_path).getD ""

def introspection_path : String := "/home/asr/CLionProjects/bro-spotd2/bro.spot.xml"

def reply_introspection (msg : DBusMessage) : Handler S :=
  reply platform msg (read_file platform introspection_path)

/-- What the Spot methods do with the first argument. -/
def with_feature (msg : DBusMessage) (answer : String → Handler S) : Handler S :=
  match msg.args with
  | [] => error platform msg "Message has no arguments!"
  | .string feature :: _ => answer feature
  | _ :: _ => error platform msg "Argument is not a string!"

/-- The reply is prepared before the lookup and sent after it, also where the lookup raised. -/
def reply_spotstatus (msg : DBusMessage) : Handler S :=
  with_feature platform msg (fun feature dbs =>
    match dbs._dsp.status spot feature with
    | .ok status =>
      _send_flush_unref platform
        (msg.new_method_return (append_spot_status (platform.beside dbs._conn.attempts) status))
        ("SPOT STATUS " ++ feature) dbs
    | .error e =>
      andThen (caught platform msg e)
        (_send_flush_unref platform (msg.new_method_return []) ("SPOT STATUS " ++ feature)) dbs)

def reply_spotconfig (msg : DBusMessage) : Handler S :=
  with_feature platform msg (fun feature dbs =>
    match dbs._dsp.config spot feature with
    | .ok conf =>
      _send_flush_unref platform
        (msg.new_method_return (append_spot_config (platform.beside dbs._conn.attempts) conf))
        ("SPOT CONFIG " ++ feature) dbs
    | .error e =>
      andThen (caught platform msg e)
        (_send_flush_unref platform (msg.new_method_return []) ("SPOT CONFIG " ++ feature)) dbs)

def reply_reset (msg : DBusMessage) : Handler S :=
  with_feature platform msg (fun feature dbs =>
    let out := dbs._dsp.reset spot (platform.reset_fault dbs._conn.attempts) feature
    let tried : Handler S := match out.1 with
      | .ok () => reply platform msg ("The feature " ++ feature ++ " has been reset")
      | .error e => caught platform msg e
    andThen tried (_send_flush_unref platform (msg.new_method_return []) ("RESET " ++ feature))
      { dbs with _dsp := out.2 })

inductive Method where
  | Features
  | Status
  | Config
  | Reset
  | Introspect
  | Kill
  deriving DecidableEq, Repr

/-- The chain of tests in `listen`. -/
def dispatch (msg : DBusMessage) : Option Method :=
  if msg.is_method_call "bro.spot.Common" "Features" then some .Features
  else if msg.is_method_call "bro.spot.Spot" "Status" then some .Status
  else if msg.is_method_call "bro.spot.Spot" "Config" then some .Config
  else if msg.is_method_call "bro.spot.Spot" "Reset" then some .Reset
  else if msg.is_method_call "org.freedesktop.DBus.Introspectable" "Introspect" then some .Introspect
  else if msg.is_method_call "bro.spot.Common" "Kill" then some .Kill
  else none

def handle (msg : DBusMessage) : Handler S :=
  match dispatch msg with
  | some .Features => reply_features platform msg
  | some .Status => reply_spotstatus spot platform msg
  | some .Config => reply_spotconfig spot platform msg
  | some .Reset => reply_reset spot platform msg
  | some .Introspect => reply_introspection platform msg
  | some .Kill => reply platform msg "Stopping the daemon"
  | none => fun dbs => (.ok (), dbs)

end Dbuspotcher

/-- How the process ends: by `exit`, as Kill does with the status 0, or by an exception that
nobody catches. -/
inductive Ending where
  | exit (status : Int32)
  | terminate (e : Exn)
  deriving DecidableEq, Repr

structure Listener (S : Type) where
  dbs : Dbuspotcher S
  ended : Option Ending

namespace Listener

variable {S : Type} (spot : Spot S) (platform : Platform)

/-- One turn of the loop in `listen`, on a message that was popped. -/
def consume (l : Listener S) (msg : DBusMessage) : Listener S :=
  if l.ended.isSome then l
  else
    let out := Dbuspotcher.handle spot platform msg l.dbs
    match out.1 with
    | .error e => ⟨out.2, some (.terminate e)⟩
    | .ok () => ⟨out.2, if Dbuspotcher.dispatch msg = some .Kill then some (.exit 0) else none⟩

def listen (l : Listener S) (messages : List DBusMessage) : Listener S :=
  Runs.run (consume spot platform) l messages

end Listener

/-- An int arrives whole, whatever stands behind it. -/
@[simp] theorem append_int (value : Int32) (beside : BitVec 24) :
    append_basic .INT32 (intAt value beside) = some (.int32 value) := by
  simp only [append_basic, intAt]
  rw [load_exact (value.toBitVec.isLt.trans_eq (by norm_num)), BitVec.ofNat_toNat, BitVec.setWidth_eq,
    Int32.ofBitVec_toBitVec]

@[simp] theorem append_double (value : Double) (beside : BitVec 24) :
    append_basic .DOUBLE (doubleAt value beside) = some (.double value) := by
  simp only [append_basic, doubleAt]
  rw [load_exact (value.bits.isLt.trans_eq (by norm_num)), BitVec.ofNat_toNat, BitVec.setWidth_eq]

/-- A bool arrives only where the three bytes behind it are zero. -/
@[simp] theorem append_bool (value : Bool) (beside : BitVec 24) :
    append_basic .BOOLEAN (boolAt value beside) = if beside = 0 then some (.boolean value) else none := by
  have neighbours : load ((bytes 3 beside.toNat).take 3) = beside.toNat := by
    simpa using load_exact (beside.isLt.trans_eq (by norm_num)) []
  have read : load ((boolAt value beside).take 4) = value.toNat + 256 * beside.toNat := by
    rw [boolAt, load_stored (by decide : 1 ≤ 4), neighbours]
    cases value <;> rfl
  simp only [append_basic, read]
  by_cases zero : beside = 0
  · subst zero
    cases value <;> rfl
  · have positive : 0 < beside.toNat := by
      rw [Nat.pos_iff_ne_zero]
      exact fun none_set => zero (BitVec.eq_of_toNat_eq none_set)
    rw [if_neg zero]
    split
    · omega
    · have small := Bool.toNat_le value
      omega
    · rfl

/-- The eleven arguments that the header documents for a status. -/
def statusArgs (ss : SpotStatus) : List DBusArg :=
  [.int32 ss.n, .int32 ss.ex_up, .int32 ss.ex_down, .int32 ss.Nt_up, .int32 ss.Nt_down, .int32 ss.al_up,
    .int32 ss.al_down, .double ss.t_up, .double ss.t_down, .double ss.z_up, .double ss.z_down]

/-- The eight arguments that the header documents for a config. -/
def configArgs (sc : SpotConfig) : List DBusArg :=
  [.double sc.q, .boolean sc.bounded, .int32 sc.max_excess, .boolean sc.alert, .boolean sc.up,
    .boolean sc.down, .int32 sc.n_init, .double sc.level]

def booleanFields : List String := ["bounded", "alert", "up", "down"]

theorem append_spot_status_eq (beside : String → BitVec 24) (ss : SpotStatus) :
    append_spot_status beside ss = statusArgs ss := by
  simp [append_spot_status,statusArgs,List.reduceOption]

/-- A config arrives whole exactly when zeros follow each of its four booleans. -/
theorem append_spot_config_iff (beside : String → BitVec 24) (sc : SpotConfig) :
    append_spot_config beside sc = configArgs sc ↔ ∀ field ∈ booleanFields, beside field = 0 := by
  constructor
  · intro whole
    have eight : (append_spot_config beside sc).length = 8 := congrArg List.length whole
    rw [append_spot_config] at eight
    have full := List.reduceOption_length_eq_iff.mp eight
    simpa [booleanFields] using full
  · intro clean
    simp [booleanFields] at clean
    simp [append_spot_config,configArgs,List.reduceOption,clean]

namespace Dbuspotcher

variable {S : Type} (spot : Spot S) (platform : Platform)

/-- Without a feature named, the Spot methods make one error reply. -/
theorem with_feature_unnamed {msg : DBusMessage} (unnamed : msg.feature = none)
    (answer : String → Handler S) : ∃ text, with_feature platform msg answer = error platform msg text := by
  unfold DBusMessage.feature at unnamed
  unfold with_feature
  split
  · exact ⟨_,rfl⟩
  · next args => simp [args] at unnamed
  · exact ⟨_,rfl⟩

theorem with_feature_named {msg : DBusMessage} {feature : String} (named : msg.feature = some feature)
    (answer : String → Handler S) : with_feature platform msg answer = answer feature := by
  unfold DBusMessage.feature at named
  unfold with_feature
  split at named
  · next args => rw [args]; simp only [Option.some.inj named]
  · cases named

/-- What Status and Config share: the arguments that the named feature gives, else the error
and after it the prepared reply. -/
def query (msg : DBusMessage) (args : (String → BitVec 24) → MonitoredFeature S → List DBusArg)
    (title : String) : Handler S :=
  with_feature platform msg (fun feature dbs =>
    match dbs._dsp.lookup feature with
    | some f => _send_flush_unref platform
        (msg.new_method_return (args (platform.beside dbs._conn.attempts) f)) (title ++ feature) dbs
    | none => andThen (caught platform msg (Dispotcher.unknown feature))
        (_send_flush_unref platform (msg.new_method_return []) (title ++ feature)) dbs)

theorem spotstatus_query (msg : DBusMessage) : reply_spotstatus spot platform msg =
    query platform msg (fun beside f => append_spot_status beside (f.status spot)) "SPOT STATUS " := by
  unfold reply_spotstatus query
  congr
  funext feature dbs
  rw [Dispotcher.status_eq]
  cases dbs._dsp.lookup feature <;> rfl

theorem spotconfig_query (msg : DBusMessage) : reply_spotconfig spot platform msg =
    query platform msg (fun beside f => append_spot_config beside (f.config spot)) "SPOT CONFIG " := by
  unfold reply_spotconfig query
  congr
  funext feature dbs
  rw [Dispotcher.config_eq]
  cases dbs._dsp.lookup feature <;> rfl

/-- A member function that leaves the dispatcher alone. -/
def Keeps (handler : Handler S) : Prop := ∀ dbs, (handler dbs).2._dsp = dbs._dsp

theorem keeps_send (reply : Reply) (extra_info : String) :
    Keeps (_send_flush_unref platform reply extra_info : Handler S) := by
  intro dbs
  unfold _send_flush_unref
  split <;> rfl

theorem keeps_caught (msg : DBusMessage) (e : Exn) : Keeps (caught platform msg e : Handler S) := by
  cases e with
  | invalid_argument what => exact keeps_send platform _ _
  | _ => exact fun dbs => rfl

theorem keeps_andThen {first second : Handler S} (one : Keeps first) (two : Keeps second) :
    Keeps (andThen first second) := by
  intro dbs
  have kept := one dbs
  simp only [andThen]
  split
  · next ran => rw [ran] at kept; exact (two _).trans kept
  · next ran => rw [ran] at kept; exact kept

theorem keeps_with_feature (msg : DBusMessage) {answer : String → Handler S} (keeps : ∀ f, Keeps (answer f)) :
    Keeps (with_feature platform msg answer) := by
  cases named : msg.feature with
  | none =>
    obtain ⟨text,same⟩ := with_feature_unnamed platform named answer
    rw [same]
    exact keeps_send platform _ _
  | some feature => rw [with_feature_named platform named]; exact keeps feature

theorem keeps_query (msg : DBusMessage) (args : (String → BitVec 24) → MonitoredFeature S → List DBusArg)
    (title : String) : Keeps (query platform msg args title) := by
  apply keeps_with_feature
  intro feature dbs
  dsimp only
  split
  · exact keeps_send platform _ _ dbs
  · exact keeps_andThen (keeps_caught platform msg _) (keeps_send platform _ _) dbs

theorem reset_dsp (msg : DBusMessage) (dbs : Dbuspotcher S) :
    (reply_reset spot platform msg dbs).2._dsp = match msg.feature with
      | some feature => (dbs._dsp.reset spot (platform.reset_fault dbs._conn.attempts) feature).2
      | none => dbs._dsp := by
  cases named : msg.feature with
  | none =>
    obtain ⟨text,same⟩ := with_feature_unnamed platform named _
    rw [reply_reset, same]
    exact keeps_send platform _ _ dbs
  | some feature =>
    rw [reply_reset, with_feature_named platform named]
    refine keeps_andThen ?_ (keeps_send platform _ _) _
    split
    · exact keeps_send platform _ _
    · exact keeps_caught platform msg _

/-- What a message makes of the dispatcher: only a Reset call with a string as its first
argument reaches the feature list. -/
def effect (msg : DBusMessage) (dbs : Dbuspotcher S) : Dispotcher S :=
  match dispatch msg, msg.feature with
  | some .Reset, some feature =>
    (dbs._dsp.reset spot (platform.reset_fault dbs._conn.attempts) feature).2
  | _, _ => dbs._dsp

theorem handle_dsp (msg : DBusMessage) (dbs : Dbuspotcher S) :
    (handle spot platform msg dbs).2._dsp = effect spot platform msg dbs := by
  cases dispatched : dispatch msg with
  | none => simp [handle,effect,dispatched]
  | some m =>
    simp only [handle, effect, dispatched]
    cases m with
    | Features => exact keeps_send platform _ _ dbs
    | Status => rw [spotstatus_query]; exact keeps_query platform msg _ _ dbs
    | Config => rw [spotconfig_query]; exact keeps_query platform msg _ _ dbs
    | Reset => rw [reset_dsp]; cases msg.feature <;> rfl
    | Introspect => exact keeps_send platform _ _ dbs
    | Kill => exact keeps_send platform _ _ dbs

end Dbuspotcher

/-- A message that is still consumed is handled; after the end nothing is. -/
theorem Listener.consume_dbs {S : Type} (spot : Spot S) (platform : Platform) {l : Listener S}
    (running : l.ended = none) (msg : DBusMessage) :
    (l.consume spot platform msg).dbs = (Dbuspotcher.handle spot platform msg l.dbs).2 := by
  simp only [Listener.consume, running, Option.isSome_none, Bool.false_eq_true, if_false]
  split <;> rfl

end BroSpotd
