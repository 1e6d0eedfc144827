import BroSpotd.Ending

/-! What no run of the program does, whatever fails in it and however its threads interleave.
The client never gets a reply out of turn: each answers a message that came in, in the order of
the messages. Bro never gets an event: those that are built stay with the process. -/
namespace BroSpotd

open Dbuspotcher

variable {S R : Type}

/-- What some message may be answered: no more than two replies, all of them to its sender and
under its serial. -/
structure Answers (msg : DBusMessage) (replies : List Reply) : Prop where
  few : replies.length ≤ 2
  known : replies ≠ [] → (dispatch msg).isSome = true
  addressed : ∀ reply ∈ replies, reply.destination = msg.sender ∧ reply.reply_serial = msg.serial

namespace Conversation

open Response

variable (spot : Spot S) (platform : Platform)

theorem deliver_sent (replies : List (String × Reply)) (last : Except Exn Unit) (dbs : Dbuspotcher S) :
    ∃ k, (deliver platform replies last dbs).2._conn.sent =
      dbs._conn.sent ++ (replies.take k).map Prod.snd := by
  induction replies generalizing dbs with
  | nil => exact ⟨0, (List.append_nil _).symm⟩
  | cons first rest ih =>
    obtain ⟨title,reply⟩ := first
    cases accepted : platform.send dbs._conn.attempts with
    | false => exact ⟨0, by simp [deliver,andThen,_send_flush_unref,accepted]⟩
    | true =>
      obtain ⟨k,sent⟩ := ih ⟨dbs._dsp, dbs._conn.attempts + 1, dbs._conn.sent ++ [reply]⟩
      refine ⟨k + 1, ?_⟩
      simp only [deliver, andThen, _send_flush_unref, accepted, if_true, sent, List.take_succ_cons, List.map_cons,
        List.append_assoc, List.singleton_append]

/-- A response of one or two method returns of its message, or of none. -/
structure Fits (msg : DBusMessage) (response : Response) : Prop where
  few : response.replies.length ≤ 2
  returns : ∀ made ∈ response.replies, ∃ args, made.2 = msg.new_method_return args

theorem fits_one (msg : DBusMessage) (title : String) (args : List DBusArg) : Fits msg (one msg title args) :=
  ⟨Nat.le_succ 1, by simp [one]⟩

theorem fits_refusal (msg : DBusMessage) (title : String) (e : Exn) : Fits msg (refusal msg title e) := by
  cases e with
  | invalid_argument what => exact ⟨Nat.le_refl 2, by simp [refusal]⟩
  | _ => exact ⟨Nat.zero_le 2, by simp [refusal]⟩

theorem fits_query (msg : DBusMessage) (title : String) (dsp : Dispotcher S)
    (args : MonitoredFeature S → List DBusArg) : Fits msg (Response.query msg title dsp args) := by
  unfold Response.query
  split
  · exact fits_one msg _ _
  · split
    · exact fits_one msg _ _
    · exact fits_refusal msg _ _

theorem fits_reset (msg : DBusMessage) (dsp : Dispotcher S) (fault : Option Exn) :
    Fits msg (Response.reset msg dsp fault) := by
  unfold Response.reset
  split
  · exact fits_one msg _ _
  · split
    · exact fits_refusal msg _ _
    · exact fits_refusal msg _ _
    · exact ⟨Nat.le_refl 2, by simp⟩

theorem fits_response (msg : DBusMessage) (dbs : Dbuspotcher S) : Fits msg (response spot platform msg dbs) := by
  unfold response
  split
  · exact fits_one msg _ _
  · exact fits_query msg _ _ _
  · exact fits_query msg _ _ _
  · exact fits_reset msg _ _
  · exact fits_one msg _ _
  · exact fits_one msg _ _
  · exact ⟨Nat.zero_le 2, by simp⟩

/-- What a message adds to the replies that were sent. -/
theorem consume_sent (l : Listener S) (msg : DBusMessage) :
    ∃ replies, (l.consume spot platform msg).dbs._conn.sent = l.dbs._conn.sent ++ replies ∧
      Answers msg replies := by
  cases running : l.ended with
  | some ending =>
    refine ⟨[], by rw [consume_ended spot running, List.append_nil], Nat.zero_le 2, fun some_sent => absurd rfl some_sent, ?_⟩
    exact List.forall_mem_nil _
  | none =>
    obtain ⟨few,returns⟩ := fits_response spot platform msg l.dbs
    obtain ⟨k,sent⟩ := deliver_sent platform (response spot platform msg l.dbs).replies
      (response spot platform msg l.dbs).last { l.dbs with _dsp := effect spot platform msg l.dbs }
    refine ⟨_, by rw [Listener.consume_dbs spot platform running, handle_deliver, sent], ?_, ?_, ?_⟩
    · rw [List.length_map]
      exact (List.length_take_le' k _).trans few
    · intro some_sent
      rw [Option.isSome_iff_ne_none]
      intro unknown
      simp [response,unknown] at some_sent
    · intro reply member
      obtain ⟨made,taken,rfl⟩ := List.mem_map.mp member
      obtain ⟨args,same⟩ := returns made (List.mem_of_mem_take taken)
      rw [same]
      exact ⟨rfl,rfl⟩

end Conversation

/-- Nothing was sent to Bro and nothing freed, and the events that were built carry the numbers
from 0 on. -/
structure Hoarded (w : World) : Prop where
  wire : w.heap.wire = []
  live : w.heap.live = List.range w.heap.events.length
  numbered : ∀ k event, w.heap.events[k]? = some event → ∃ alarm, event = spotAnomaly (.ofNat k) alarm
  req_id : w.req_id = .ofNat w.heap.events.length

theorem Hoarded.lose {w : World} (hoarded : Hoarded w) (alarm : Alarm) : Hoarded (w.lose alarm) := by
  obtain ⟨wire,live,numbered,req_id⟩ := hoarded
  refine ⟨wire, by simp [World.lose,World.build,live,List.range_succ], ?_, by simp [World.lose,World.build,req_id]⟩
  intro k event stored
  have stored : (w.heap.events ++ [spotAnomaly w.req_id alarm])[k]? = some event := stored
  by_cases old : k < w.heap.events.length
  · rw [List.getElem?_append_left old] at stored
    exact numbered k event stored
  · rw [List.getElem?_append_right (by omega), List.getElem?_singleton] at stored
    split at stored
    · next last =>
      have here : k = w.heap.events.length := by omega
      exact ⟨alarm, by rw [← Option.some.inj stored, req_id, here]⟩
    · cases stored

theorem Hoarded.refuse {w : World} (hoarded : Hoarded w) : Hoarded w.refuse :=
  ⟨hoarded.wire, hoarded.live, hoarded.numbered, hoarded.req_id⟩

theorem Hoarded.visit (spot : Spot S) (bro : Broccoli R) (record : R) (f : MonitoredFeature S) {w : World}
    (hoarded : Hoarded w) : Hoarded (visit spot bro record none f w).2.2 := by
  rw [visit_eq]
  split
  · exact hoarded
  · split
    · exact hoarded
    · split
      · exact hoarded.lose _
      · exact hoarded.refuse

theorem Hoarded.next (spot : Spot S) (bro : Broccoli R) (platform : Platform) {q : Process S R}
    (hoarded : Hoarded q.receiver.daemon.world) (t : Turn R) :
    Hoarded (q.next spot bro platform t).receiver.daemon.world := by
  obtain ⟨⟨d,loop⟩,conn,ended⟩ := q
  cases ended with
  | some ending => exact hoarded
  | none =>
    cases t with
    | arrive record => cases loop <;> exact hoarded
    | bus msg => exact hoarded
    | receiver =>
      cases loop with
      | idle => exact hoarded
      | test record it => cases it <;> exact hoarded
      | increment record it =>
        simp only [Process.next, Option.isSome_none, Bool.false_eq_true, if_false, Receiver.step]
        split <;> exact hoarded
      | body record it =>
        simp only [Process.next, Option.isSome_none, Bool.false_eq_true, if_false, Receiver.step]
        split
        · exact hoarded
        · exact hoarded.visit spot bro record _

namespace Program

variable {spot : Spot S} {bro : Broccoli R} {platform : Platform} {p : Program S R}

/-- What holds of the process whatever the threads do, and says nothing about its end, holds
whatever the program does. -/
theorem next_keeps (property : Process S R → Prop)
    (kept : ∀ q t, property q → property (q.next spot bro platform t))
    (blind : ∀ q ended, property q → property { q with ended := ended }) (holds : property p.process)
    (turn : Turn R) : property (p.next spot bro platform turn).process := by
  cases running : p.process.ended with
  | some ending => rwa [next_ended running]
  | none =>
    have stepped := next_stepped spot bro platform running turn
    generalize (p.next spot bro platform turn).process = q at stepped ⊢
    cases stepped with
    | nothing => exact holds
    | input event record => exact kept _ _ holds
    | message msg => exact kept _ _ holds
    | callback => exact blind _ _ (kept _ _ holds)
    | failed failure => exact blind _ _ holds
    | signal signal => exact blind _ _ holds

theorem answers_nothing (msg : DBusMessage) : Answers msg [] :=
  ⟨Nat.zero_le 2, fun some_sent => absurd rfl some_sent, List.forall_mem_nil _⟩

/-- A turn that sends nothing answers its message with nothing, if it brings one. -/
theorem unanswered (turn : Turn R) (sent : List Reply) : ∃ parts, sent = sent ++ parts.flatten ∧
    List.Forall₂ Answers turn.message?.toList parts := by
  cases turn.message? with
  | none => exact ⟨[], by simp, .nil⟩
  | some msg => exact ⟨[[]], by simp, .cons (answers_nothing msg) .nil⟩

/-- What a turn adds to the replies. -/
theorem next_sent (spot : Spot S) (bro : Broccoli R) (platform : Platform) (p : Program S R) (turn : Turn R) :
    ∃ parts, (p.next spot bro platform turn).process.conn.sent = p.process.conn.sent ++ parts.flatten ∧
      List.Forall₂ Answers turn.message?.toList parts := by
  cases running : p.process.ended with
  | some ending =>
    rw [next_ended running]
    exact unanswered turn _
  | none =>
    have stepped := next_stepped spot bro platform running turn
    generalize (p.next spot bro platform turn).process = q at stepped ⊢
    have silent : ∀ t : BroSpotd.Turn R, (∀ msg, t ≠ .bus msg) →
        (p.process.next spot bro platform t).conn = p.process.conn := by
      intro t other
      cases t with
      | bus msg => exact absurd rfl (other msg)
      | _ => simp [Process.next,running]
    cases stepped with
    | nothing => exact unanswered turn _
    | input event record =>
      rw [silent (.arrive record) (by simp)]
      exact unanswered turn _
    | message msg told =>
      obtain ⟨replies,sent,answers⟩ := Conversation.consume_sent spot platform p.process.listener msg
      refine ⟨[replies], ?_, by rw [told]; exact .cons answers .nil⟩
      rw [List.flatten_singleton, ← show p.process.listener.dbs._conn.sent = p.process.conn.sent from rfl, ← sent]
      simp [Process.next,running]
    | callback =>
      dsimp only
      rw [silent .receiver (by simp)]
      exact unanswered turn _
    | failed failure => exact unanswered turn _
    | signal signal => exact unanswered turn _

end Program

open Program in
/-- In every run of the program, whatever fails and whatever interleaves: the replies are those
to the messages, in the order of the messages, for each no more than two, to its sender and
under its serial, and none for what is not a known call. -/
theorem replies_follow_messages {S R : Type} (spot : Spot S) (bro : Broccoli R) (platform : Platform)
    (parser : IniParser) (s : Settings) (ini : Dictionary) (all : List (Program.Turn R)) :
    ∃ parts, ((ready parser spot s ini).run spot bro platform all).process.conn.sent = parts.flatten ∧
      List.Forall₂ Answers (all.filterMap Program.Turn.message?) parts := by
  have start : ∃ parts, (ready (R := R) parser spot s ini).process.conn.sent = parts.flatten ∧
      List.Forall₂ Answers [] parts := ⟨[], rfl, .nil⟩
  have replies := Runs.related_output (Program.next spot bro platform) (fun _ turn => turn.message?.toList)
    (fun p messages => ∃ parts, p.process.conn.sent = parts.flatten ∧ List.Forall₂ Answers messages parts)
    (fun p messages turn => by
      rintro ⟨parts,sent,answers⟩
      obtain ⟨more,added,answers'⟩ := next_sent spot bro platform p turn
      exact ⟨parts ++ more, by rw [added, sent, List.flatten_append], List.rel_append answers answers'⟩)
    all start
  rw [Runs.output_filterMap] at replies
  exact replies

open Program in
/-- In every run of the program, whatever fails and whatever interleaves: Bro is sent nothing,
every event that was built is still allocated, and the k-th carries the number k. -/
theorem alerts_never_leave {S R : Type} (spot : Spot S) (bro : Broccoli R) (platform : Platform)
    (parser : IniParser) (s : Settings) (ini : Dictionary) (all : List (Program.Turn R)) :
    Hoarded ((ready parser spot s ini).run spot bro platform all).process.receiver.daemon.world := by
  have start : Hoarded (ready (R := R) parser spot s ini).process.receiver.daemon.world :=
    ⟨rfl, rfl, by simp [ready,Process.start,Daemon.start,World.initial,EventHeap.empty], rfl⟩
  apply Runs.invariant (Program.next spot bro platform)
    (fun p => Hoarded p.process.receiver.daemon.world) _ _ all start
  intro p turn hoarded
  exact next_keeps (fun q => Hoarded q.receiver.daemon.world)
    (fun q t holds => holds.next spot bro platform t) (fun q ended holds => holds) hoarded turn

end BroSpotd
