import BroSpotd.Listening
import BroSpotd.Library.Channel

/-! The D-Bus conversation on a bus that may refuse a reply. A handler is its effect on the
dispatcher and the delivery of its response, reply by reply, and `listen` is the handlers one
after the other, as far as the first Kill. A refused reply raises `overflow_error`, which
nothing catches, so the process ends with the title of the refused reply, and the client has
been sent what it would have been sent anyway, as far as that reply. -/
namespace BroSpotd

open Dbuspotcher

variable {S : Type}

/-- The replies made for a message, each with the title under which `_send_flush_unref` reports
it, and how its member function ends after them. -/
structure Response where
  replies : List (String × Reply)
  last : Except Exn Unit

namespace Response

def one (msg : DBusMessage) (title : String) (args : List DBusArg) : Response :=
  ⟨[(title, msg.new_method_return args)], .ok ()⟩

/-- A Spot method that no feature is named to. -/
def unnamed (msg : DBusMessage) : Response :=
  one msg "ERROR" [.string ("[ERROR] " ++
    if msg.args.isEmpty then "Message has no arguments!" else "Argument is not a string!")]

/-- An exception inside the `try`: what is caught is told, and the prepared reply follows. -/
def refusal (msg : DBusMessage) (title : String) : Exn → Response
  | .invalid_argument what =>
    ⟨[("ERROR", msg.new_method_return [.string ("[ERROR] " ++ what)]), (title, msg.new_method_return [])], .ok ()⟩
  | e => ⟨[], .error e⟩

def query (msg : DBusMessage) (title : String) (dsp : Dispotcher S) (args : MonitoredFeature S → List DBusArg) :
    Response :=
  match msg.feature with
  | none => unnamed msg
  | some feature =>
    match dsp.lookup feature with
    | some f => one msg (title ++ feature) (args f)
    | none => refusal msg (title ++ feature) (Dispotcher.unknown feature)

def reset (msg : DBusMessage) (dsp : Dispotcher S) (fault : Option Exn) : Response :=
  match msg.feature with
  | none => unnamed msg
  | some feature =>
    match dsp.lookup feature, fault with
    | none, _ => refusal msg ("RESET " ++ feature) (Dispotcher.unknown feature)
    | some _, some e => refusal msg ("RESET " ++ feature) e
    | some _, none =>
      ⟨[("INFO", msg.new_method_return [.string ("The feature " ++ feature ++ " has been reset")]),
        ("RESET " ++ feature, msg.new_method_return [])], .ok ()⟩

/-- The sends one after the other, as far as one that raises. -/
def deliver (platform : Platform) : List (String × Reply) → Except Exn Unit → Handler S
  | [], last => fun dbs => (last,dbs)
  | (title,reply) :: rest, last => andThen (_send_flush_unref platform reply title) (deliver platform rest last)

end Response

/-- What a message is answered in a state of the listener. -/
def response (spot : Spot S) (platform : Platform) (msg : DBusMessage) (dbs : Dbuspotcher S) : Response :=
  match dispatch msg with
  | some .Features => .one msg "FEATURES" (dbs._dsp.names.map .string)
  | some .Status => .query msg "SPOT STATUS " dbs._dsp (fun f => statusArgs (f.status spot))
  | some .Config => .query msg "SPOT CONFIG " dbs._dsp
      (fun f => append_spot_config (platform.beside dbs._conn.attempts) (f.config spot))
  | some .Reset => .reset msg dbs._dsp (platform.reset_fault dbs._conn.attempts)
  | some .Introspect => .one msg "INFO" [.string (read_file platform introspection_path)]
  | some .Kill => .one msg "INFO" [.string "Stopping the daemon"]
  | none => ⟨[], .ok ()⟩

/-- The same platform under a bus that accepts these sends. -/
def Platform.with_send (platform : Platform) (accepts : Nat → Bool) : Platform := { platform with send := accepts }

namespace Conversation

/-- The connection as a channel of titled replies, of which the client does not get the title. -/
def bus : Channel.View (Dbuspotcher S) (String × Reply) Reply where
  attempts := fun dbs => dbs._conn.attempts
  sent := fun dbs => dbs._conn.sent
  put := Prod.snd

/-- What `_send_flush_unref` raises for a reply. -/
def NotSent (due : String × Reply) (e : Exn) : Prop :=
  e = .overflow_error ("[" ++ due.1 ++ "] Reply has not been sent")

/-- A member function that sends these replies and does nothing about a refused one. -/
abbrev Honest (act : Channel.Act Exn (Dbuspotcher S)) (dbs : Dbuspotcher S) (due : List (String × Reply)) : Prop :=
  Channel.Honest bus NotSent act dbs due

variable (spot : Spot S) (platform : Platform)

open Response

theorem deliver_one (msg : DBusMessage) (title : String) (args : List DBusArg) (dbs : Dbuspotcher S) :
    deliver platform (one msg title args).replies (one msg title args).last dbs =
      _send_flush_unref platform (msg.new_method_return args) title dbs := by
  simp only [one, deliver, andThen]
  rcases _send_flush_unref platform (msg.new_method_return args) title dbs with ⟨_ | _, next⟩ <;> rfl

theorem deliver_refusal (msg : DBusMessage) (title : String) (e : Exn) (dbs : Dbuspotcher S) :
    deliver platform (refusal msg title e).replies (refusal msg title e).last dbs =
      andThen (caught platform msg e) (_send_flush_unref platform (msg.new_method_return []) title) dbs := by
  cases e with
  | invalid_argument what =>
    simp only [refusal, deliver, andThen, caught, error]
    rcases _send_flush_unref platform _ "ERROR" dbs with ⟨_ | _, next⟩
    · rfl
    · dsimp only
      rcases _send_flush_unref platform (msg.new_method_return []) title next with ⟨_ | _, last⟩ <;> rfl
  | _ => rfl

theorem with_feature_unnamed_eq {msg : DBusMessage} (unnamed : msg.feature = none) (answer : String → Handler S)
    (dbs : Dbuspotcher S) : with_feature platform msg answer dbs =
      deliver platform (Response.unnamed msg).replies (Response.unnamed msg).last dbs := by
  rw [Response.unnamed, deliver_one]
  unfold DBusMessage.feature at unnamed
  unfold with_feature error
  cases given : msg.args with
  | nil => simp
  | cons first rest =>
    rw [given] at unnamed
    cases first with
    | string feature => cases unnamed
    | _ => simp

theorem query_deliver (msg : DBusMessage) (args : (String → BitVec 24) → MonitoredFeature S → List DBusArg)
    (title : String) (dbs : Dbuspotcher S) :
    Dbuspotcher.query platform msg args title dbs =
      deliver platform (Response.query msg title dbs._dsp (args (platform.beside dbs._conn.attempts))).replies
        (Response.query msg title dbs._dsp (args (platform.beside dbs._conn.attempts))).last dbs := by
  cases named : msg.feature with
  | none => simp only [Dbuspotcher.query, with_feature_unnamed_eq platform named, Response.query, named]
  | some feature =>
    simp only [Dbuspotcher.query, with_feature_named platform named, Response.query, named]
    cases found : dbs._dsp.lookup feature with
    | none => exact (deliver_refusal platform msg (title ++ feature) _ dbs).symm
    | some f => exact (deliver_one platform msg (title ++ feature) _ dbs).symm

theorem reset_deliver (msg : DBusMessage) (dbs : Dbuspotcher S) (dispatched : dispatch msg = some .Reset) :
    reply_reset spot platform msg dbs =
      deliver platform (response spot platform msg dbs).replies (response spot platform msg dbs).last
        { dbs with _dsp := effect spot platform msg dbs } := by
  simp only [response, effect, dispatched]
  cases named : msg.feature with
  | none => simp only [reply_reset, with_feature_unnamed_eq platform named, Response.reset, named]
  | some feature =>
    simp only [reply_reset, with_feature_named platform named, Response.reset, named]
    cases found : dbs._dsp.lookup feature with
    | none =>
      simp only [Dispotcher.reset_unknown found]
      exact (deliver_refusal platform msg ("RESET " ++ feature) _ dbs).symm
    | some f =>
      cases fault : platform.reset_fault dbs._conn.attempts with
      | none =>
        simp only [(Dispotcher.reset_known found spot).1, deliver, reply, andThen]
        rcases _send_flush_unref platform _ "INFO" _ with ⟨_ | _, next⟩
        · rfl
        · dsimp only
          rcases _send_flush_unref platform (msg.new_method_return []) ("RESET " ++ feature) next with ⟨_ | _, last⟩ <;> rfl
      | some e =>
        simp only [(Dispotcher.reset_fault found spot e).1]
        exact (deliver_refusal platform msg ("RESET " ++ feature) e _).symm

/-- A member function is its effect on the dispatcher and the delivery of its response. -/
theorem handle_deliver (msg : DBusMessage) (dbs : Dbuspotcher S) :
    handle spot platform msg dbs =
      deliver platform (response spot platform msg dbs).replies (response spot platform msg dbs).last
        { dbs with _dsp := effect spot platform msg dbs } := by
  cases dispatched : dispatch msg with
  | none => simp only [handle, response, effect, dispatched, deliver]
  | some m =>
    cases m with
    | Reset =>
      rw [← reset_deliver spot platform msg dbs dispatched]
      simp only [handle, dispatched]
    | Status =>
      simp only [handle, response, effect, dispatched, spotstatus_query, query_deliver, append_spot_status_eq]
    | Config => simp only [handle, response, effect, dispatched, spotconfig_query, query_deliver]
    | Features => simp only [handle, response, effect, dispatched, deliver_one, reply_features]
    | Introspect => simp only [handle, response, effect, dispatched, deliver_one, reply_introspection, reply]
    | Kill => simp only [handle, response, effect, dispatched, deliver_one, reply]

theorem honest_send (reply : Reply) (info : String) (dbs : Dbuspotcher S) :
    Honest (fun accepts => _send_flush_unref (platform.with_send accepts) reply info) dbs [(info,reply)] := by
  apply Channel.honest_send
  · intro accepts accepted
    have accepted : accepts dbs._conn.attempts = true := accepted
    simp [_send_flush_unref,Platform.with_send,Channel.all,accepted]
  · rfl
  · rfl
  · intro accepts refused
    have refused : accepts dbs._conn.attempts = false := refused
    simp [_send_flush_unref,Platform.with_send,refused,NotSent,bus]

theorem honest_deliver (replies : List (String × Reply)) (last : Except Exn Unit) (dbs : Dbuspotcher S) :
    Honest (fun accepts => deliver (platform.with_send accepts) replies last) dbs replies := by
  induction replies generalizing dbs with
  | nil => exact Channel.honest_silent (fun _ => rfl) rfl rfl
  | cons first rest ih =>
    obtain ⟨title,reply⟩ := first
    have both := Channel.honest_andThen (honest_send platform reply title dbs) rfl (ih _)
    refine Channel.honest_after both (fun accepts => ?_) rfl rfl
    simp only [deliver, andThen, Channel.andThen]
    rcases _send_flush_unref (platform.with_send accepts) reply title dbs with ⟨_ | _, next⟩ <;> rfl

/-- No handler does anything about a refused reply. -/
theorem honest_handle (msg : DBusMessage) (dbs : Dbuspotcher S) :
    Honest (fun accepts => handle spot (platform.with_send accepts) msg) dbs
      (response spot platform msg dbs).replies := by
  have delivers := honest_deliver platform (response spot platform msg dbs).replies
    (response spot platform msg dbs).last { dbs with _dsp := effect spot platform msg dbs }
  exact Channel.honest_after delivers (fun accepts => handle_deliver spot _ msg dbs) rfl rfl

theorem deliver_whole {replies : List (String × Reply)} (last : Except Exn Unit) (dsp : Dispotcher S)
    {conn : DBusConnection}
    (accepted : ∀ n, conn.attempts ≤ n → n < conn.attempts + replies.length → platform.send n = true) :
    (deliver platform replies last ⟨dsp,conn⟩).1 = last := by
  induction replies generalizing conn with
  | nil => rfl
  | cons first rest ih =>
    obtain ⟨title,reply⟩ := first
    rw [List.length_cons] at accepted
    have now := accepted _ (Nat.le_refl _) (by omega)
    simp only [deliver, andThen, _send_flush_unref, now, if_true]
    apply ih
    intro n later within
    dsimp only at later within
    exact accepted n (by omega) (by omega)

theorem deliver_refused {before : List (String × Reply)} {title : String} (reply : Reply)
    (after : List (String × Reply)) (last : Except Exn Unit) (dsp : Dispotcher S) {conn : DBusConnection}
    (accepted : ∀ n, conn.attempts ≤ n → n < conn.attempts + before.length → platform.send n = true)
    (refused : platform.send (conn.attempts + before.length) = false) :
    (deliver platform (before ++ (title,reply) :: after) last ⟨dsp,conn⟩).1 =
      .error (.overflow_error ("[" ++ title ++ "] Reply has not been sent")) := by
  induction before generalizing conn with
  | nil =>
    have now : platform.send conn.attempts = false := refused
    simp [deliver,andThen,_send_flush_unref,now]
  | cons first rest ih =>
    obtain ⟨_,_⟩ := first
    rw [List.length_cons] at accepted refused
    have now := accepted _ (Nat.le_refl _) (by omega)
    simp only [List.cons_append, deliver, andThen, _send_flush_unref, now, if_true]
    apply ih
    · intro n later within
      dsimp only at later within
      exact accepted n (by omega) (by omega)
    · rw [Nat.add_assoc, Nat.add_comm 1]
      exact refused

/-- What leaves a member function as an exception: the first refused reply, or what `reset`
raises itself and `catch` does not take. -/
inductive Raises (spot : Spot S) (platform : Platform) (msg : DBusMessage) (dbs : Dbuspotcher S) : Exn → Prop
  | refused (before : List (String × Reply)) (title : String) (reply : Reply) (after : List (String × Reply))
      (made : (response spot platform msg dbs).replies = before ++ (title,reply) :: after)
      (accepted : ∀ n, dbs._conn.attempts ≤ n → n < dbs._conn.attempts + before.length → platform.send n = true)
      (refused : platform.send (dbs._conn.attempts + before.length) = false) :
      Raises spot platform msg dbs (.overflow_error ("[" ++ title ++ "] Reply has not been sent"))
  | fault (feature : String) (e : Exn) (resets : dispatch msg = some .Reset) (named : msg.feature = some feature)
      (known : feature ∈ dbs._dsp.names) (fault : platform.reset_fault dbs._conn.attempts = some e)
      (escapes : ∀ what, e ≠ .invalid_argument what) : Raises spot platform msg dbs e

theorem refusal_last_iff {msg : DBusMessage} {title : String} {e e' : Exn} :
    (refusal msg title e).last = .error e' ↔ e = e' ∧ ∀ what, e ≠ .invalid_argument what := by
  cases e <;> simp [refusal]

/-- A response ends with an exception only for a fault of `reset`. -/
theorem response_last_iff {msg : DBusMessage} {dbs : Dbuspotcher S} {e : Exn} :
    (response spot platform msg dbs).last = .error e ↔ ∃ feature, dispatch msg = some .Reset ∧
      msg.feature = some feature ∧ feature ∈ dbs._dsp.names ∧
      platform.reset_fault dbs._conn.attempts = some e ∧ ∀ what, e ≠ .invalid_argument what := by
  have queried : ∀ title (args : MonitoredFeature S → List DBusArg),
      (Response.query msg title dbs._dsp args).last = .ok () := by
    intro title args
    unfold Response.query
    split
    · rfl
    · split <;> rfl
  cases dispatched : dispatch msg with
  | none => simp [response,dispatched]
  | some m =>
    simp only [response, dispatched]
    cases m with
    | Reset =>
      simp only [true_and, ← Dispotcher.lookup_isSome_iff]
      cases named : msg.feature with
      | none => simp [Response.reset,named,Response.unnamed,one]
      | some feature =>
        cases found : dbs._dsp.lookup feature with
        | none => simp [Response.reset,named,found,Dispotcher.unknown,refusal]
        | some f =>
          cases fault : platform.reset_fault dbs._conn.attempts with
          | none => simp [Response.reset,named,found]
          | some e' =>
            simp only [Response.reset, named, found, refusal_last_iff]
            grind
    | Status => simp [queried]
    | Config => simp [queried]
    | _ => simp [one]

theorem replies_of_fault {msg : DBusMessage} {dbs : Dbuspotcher S} {e : Exn}
    (raised : (response spot platform msg dbs).last = .error e) : (response spot platform msg dbs).replies = [] := by
  obtain ⟨feature,resets,named,known,fault,escapes⟩ := (response_last_iff spot platform).mp raised
  obtain ⟨f,found⟩ := Option.isSome_iff_exists.mp ((Dispotcher.lookup_isSome_iff dbs._dsp feature).mpr known)
  simp only [response, resets, Response.reset, named, found, fault]
  cases e with
  | invalid_argument what => exact absurd rfl (escapes what)
  | _ => rfl

/-- An exception leaves a member function exactly for one of these causes. -/
theorem handle_error_iff {msg : DBusMessage} {dbs : Dbuspotcher S} {e : Exn} :
    (handle spot platform msg dbs).1 = .error e ↔ Raises spot platform msg dbs e := by
  rw [handle_deliver]
  constructor
  · intro raised
    rcases Channel.accepted_or_refused platform.send dbs._conn.attempts (response spot platform msg dbs).replies with
      accepted | ⟨before,⟨title,reply⟩,after,made,accepted,refused⟩
    · rw [deliver_whole platform _ _ accepted] at raised
      obtain ⟨feature,resets,named,known,fault,escapes⟩ := (response_last_iff spot platform).mp raised
      exact .fault feature e resets named known fault escapes
    · rw [made, deliver_refused platform reply after _ _ accepted refused] at raised
      cases raised
      exact .refused before title reply after made accepted refused
  · intro raises
    cases raises with
    | refused before title reply after made accepted refused =>
      rw [made]
      exact deliver_refused platform reply after _ _ accepted refused
    | fault feature _ resets named known fault escapes =>
      have raised := (response_last_iff spot platform).mpr ⟨feature, resets, named, known, fault, escapes⟩
      rw [replies_of_fault spot platform raised]
      exact raised

/-- `listen` without its flag: the handlers one after the other, the first Kill the last. -/
def serve : List DBusMessage → Channel.Act Exn (Dbuspotcher S)
  | [] => fun _ dbs => (.ok (), dbs)
  | msg :: rest =>
    if dispatch msg = some .Kill then fun accepts => handle spot (platform.with_send accepts) msg
    else Channel.andThen (fun accepts => handle spot (platform.with_send accepts) msg) (serve rest)

/-- The listener that an outcome of these handlers leaves. -/
def left (messages : List DBusMessage) (out : Except Exn Unit × Dbuspotcher S) : Listener S where
  dbs := out.2
  ended := match out.1 with
    | .error e => some (.terminate e)
    | .ok () => if some .Kill ∈ messages.map dispatch then some (.exit 0) else none

/-- The replies due to a message, unless the process is over. -/
def duesOf (l : Listener S) (msg : DBusMessage) : List (String × Reply) :=
  if l.ended.isSome then [] else (response spot platform msg l.dbs).replies

/-- The replies that are due to the messages, with their titles, in order: those that a bus gets
that accepts everything. -/
def dues (l : Listener S) (messages : List DBusMessage) : List (String × Reply) :=
  Runs.output (Listener.consume spot (platform.with_send Channel.all)) (duesOf spot platform) l messages

theorem dues_ended {l : Listener S} {ending : Ending} (finished : l.ended = some ending)
    (messages : List DBusMessage) : dues spot platform l messages = [] := by
  induction messages with
  | nil => rfl
  | cons msg rest ih =>
    rw [dues, Runs.output, consume_ended spot finished, ← dues, ih]
    simp [duesOf,finished]

theorem dues_cons (msg : DBusMessage) (rest : List DBusMessage) (dbs : Dbuspotcher S) :
    dues spot platform ⟨dbs,none⟩ (msg :: rest) = (response spot platform msg dbs).replies ++
      dues spot platform ((⟨dbs,none⟩ : Listener S).consume spot (platform.with_send Channel.all) msg) rest := rfl

theorem consume_raised {msg : DBusMessage} {dbs next : Dbuspotcher S} {e : Exn}
    (ran : handle spot platform msg dbs = (.error e, next)) :
    (⟨dbs,none⟩ : Listener S).consume spot platform msg = ⟨next, some (.terminate e)⟩ := by
  simp [Listener.consume,ran]

theorem consume_returned {msg : DBusMessage} {dbs next : Dbuspotcher S}
    (ran : handle spot platform msg dbs = (.ok (), next)) :
    (⟨dbs,none⟩ : Listener S).consume spot platform msg =
      ⟨next, if dispatch msg = some .Kill then some (.exit 0) else none⟩ := by
  simp [Listener.consume,ran]

theorem honest_serve (messages : List DBusMessage) (dbs : Dbuspotcher S) :
    Honest (serve spot platform messages) dbs (dues spot platform ⟨dbs,none⟩ messages) := by
  induction messages generalizing dbs with
  | nil => exact Channel.honest_silent (fun _ => rfl) rfl rfl
  | cons msg rest ih =>
    have handles := honest_handle spot platform msg dbs
    rw [dues_cons]
    rcases ran : handle spot (platform.with_send Channel.all) msg dbs with ⟨e | _, next⟩
    · -- nothing is due after an exception, whatever the message was
      rw [consume_raised spot _ ran, dues_ended spot platform rfl, List.append_nil]
      by_cases kills : dispatch msg = some .Kill
      · simp only [serve, if_pos kills]
        exact handles
      · simp only [serve, if_neg kills]
        exact Channel.honest_andThen_error handles (congrArg Prod.fst ran)
    · rw [consume_returned spot _ ran]
      by_cases kills : dispatch msg = some .Kill
      · rw [if_pos kills, dues_ended spot platform rfl, List.append_nil]
        simp only [serve, if_pos kills]
        exact handles
      · simp only [serve, if_neg kills]
        exact Channel.honest_andThen handles ran (ih next)

/-- The loop is that program. -/
theorem listen_serve (accepts : Nat → Bool) (messages : List DBusMessage) (dbs : Dbuspotcher S) :
    (⟨dbs,none⟩ : Listener S).listen spot (platform.with_send accepts) messages =
      left messages (serve spot platform messages accepts dbs) := by
  induction messages generalizing dbs with
  | nil => rfl
  | cons msg rest ih =>
    have first : (⟨dbs,none⟩ : Listener S).listen spot (platform.with_send accepts) (msg :: rest) =
        ((⟨dbs,none⟩ : Listener S).consume spot (platform.with_send accepts) msg).listen spot
          (platform.with_send accepts) rest := rfl
    rw [first]
    rcases ran : handle spot (platform.with_send accepts) msg dbs with ⟨e | _, next⟩
    · -- an exception ends the loop, whatever the message was
      have served : serve spot platform (msg :: rest) accepts dbs = (.error e,next) := by
        by_cases kills : dispatch msg = some .Kill
        · simp only [serve, if_pos kills, ran]
        · simp only [serve, if_neg kills, Channel.andThen, ran]
      rw [consume_raised spot _ ran, listen_ended spot rfl, served]
      rfl
    · rw [consume_returned spot _ ran]
      by_cases kills : dispatch msg = some .Kill
      · have served : serve spot platform (msg :: rest) accepts dbs = (.ok (),next) := by
          simp only [serve, if_pos kills, ran]
        rw [if_pos kills, listen_ended spot rfl, served]
        simp [left,kills]
      · have served : serve spot platform (msg :: rest) accepts dbs = serve spot platform rest accepts next := by
          simp only [serve, if_neg kills, Channel.andThen, ran]
        rw [if_neg kills, ih, served]
        simp [left,Ne.symm kills]

end Conversation

open Conversation in
/-- For every dispatcher, every sequence of messages and every pattern of refused replies:
either none of the replies due is refused and nothing is different, or the first refused one
ends the process by `overflow_error` with its title, and the client has been sent the replies
before it. -/
theorem refused_reply_ends_listen (spot : Spot S) (platform : Platform) (dbs : Dbuspotcher S)
    (messages : List DBusMessage) :
    let replies := dues spot platform ⟨dbs,none⟩ messages
    let due := (⟨dbs,none⟩ : Listener S).listen spot (platform.with_send Channel.all) messages
    let l := (⟨dbs,none⟩ : Listener S).listen spot platform messages
    due.dbs._conn.sent = dbs._conn.sent ++ replies.map Prod.snd ∧
    due.dbs._conn.attempts = dbs._conn.attempts + replies.length ∧
    ((∀ n, dbs._conn.attempts ≤ n → n < due.dbs._conn.attempts → platform.send n = true) ∧ l = due ∨
    ∃ before title reply after, replies = before ++ (title,reply) :: after ∧
      (∀ n, dbs._conn.attempts ≤ n → n < dbs._conn.attempts + before.length → platform.send n = true) ∧
      platform.send (dbs._conn.attempts + before.length) = false ∧
      l.ended = some (.terminate (.overflow_error ("[" ++ title ++ "] Reply has not been sent"))) ∧
      l.dbs._conn.sent = dbs._conn.sent ++ before.map Prod.snd) := by
  intro replies due l
  have due_eq : due = left messages (serve spot platform messages Channel.all dbs) :=
    listen_serve spot platform Channel.all messages dbs
  have l_eq : l = left messages (serve spot platform messages platform.send dbs) :=
    listen_serve spot platform platform.send messages dbs
  obtain ⟨attempts,sent,cut⟩ := honest_serve spot platform messages dbs
  have attempts : due.dbs._conn.attempts = dbs._conn.attempts + replies.length := by rw [due_eq]; exact attempts
  refine ⟨by rw [due_eq]; exact sent, attempts, ?_⟩
  cases cut platform.send with
  | whole accepted same => exact .inl ⟨by rw [attempts]; exact accepted, by rw [l_eq, due_eq, same]⟩
  | refused before item after made accepted refused raised sent =>
    obtain ⟨title,reply⟩ := item
    obtain ⟨_,rfl,raised⟩ := raised
    refine .inr ⟨before, title, reply, after, made, accepted, refused, ?_, by rw [l_eq]; exact sent⟩
    rw [l_eq]
    simp only [left, raised]

/-- The bus refuses the second reply: the Config call is answered by nothing, and no other
message is read. -/
example :
    let dbs : Dbuspotcher (SpotConfig × List Double) :=
      ⟨.ofFeatures [.new (.returning 3) "mem" BRO_TYPE_DOUBLE .shipped], ⟨0,[]⟩⟩
    let l := (⟨dbs,none⟩ : Listener _).listen (.returning 3) (Platform.calm.with_send (fun n => n ≠ 1))
      [.call "bro.spot.Common" "Features" [], .call "bro.spot.Spot" "Config" [.string "mem"],
        .call "bro.spot.Common" "Kill" []]
    l.dbs._conn.sent.map Reply.args = [[.string "mem"]] ∧
    l.ended = some (.terminate (.overflow_error "[SPOT CONFIG mem] Reply has not been sent")) := by
  decide +kernel

end BroSpotd
