import BroSpotd.Conversation
import BroSpotd.Lifetime

/-! How the program ends, by itself or by a signal, and what is left of it when the connection
to Bro is lost. The main thread waits then for the bus thread, which returns from `listen` only
by the end of the process. -/
namespace BroSpotd

namespace Program

variable {S R : Type} {spot : Spot S} {bro : Broccoli R} {platform : Platform} {p : Program S R}

/-- What ends a program: the constructor of the listener, a step of `callback`, Kill, what
leaves the member function for another message, or a signal. -/
inductive Ends (spot : Spot S) (bro : Broccoli R) (platform : Platform) (p : Program S R) : Turn R → Ending → Prop
  | bus (failure : BusFailure) (creates : p.point = .listener) :
      Ends spot bro platform p (.listener (some failure)) (.terminate (.runtime_error failure.what))
  | lookup {record : R} {it : Nat} {node : Node (MonitoredFeature S)} (handles : p.point = .handling)
      (body : p.process.receiver.loop = .body record it) (here : p.process.dsp._features.get? it = some node)
      (unread : readValue bro record node.value = none) :
      Ends spot bro platform p .callback (.terminate lookupFailed)
  | event {record : R} {it : Nat} {node : Node (MonitoredFeature S)} {alarm : Alarm} (handles : p.point = .handling)
      (body : p.process.receiver.loop = .body record it) (here : p.process.dsp._features.get? it = some node)
      (anomalous : alarm? spot bro record node.value = some alarm)
      (refused : bro.event_allocated p.process.receiver.daemon.world.heap.attempts = false) :
      Ends spot bro platform p .callback (.terminate allocationFailed)
  | kill (msg : DBusMessage) (listens : p.point.listens = true) (asks : Dbuspotcher.dispatch msg = some .Kill)
      (accepted : platform.send p.process.conn.attempts = true) : Ends spot bro platform p (.message msg) (.exit 0)
  | handler (msg : DBusMessage) (e : Exn) (listens : p.point.listens = true)
      (raises : Conversation.Raises spot platform msg p.process.listener.dbs e) :
      Ends spot bro platform p (.message msg) (.terminate e)
  | signal (signal : Signal) : Ends spot bro platform p (.signal signal) signal.ending

/-- The two exceptions of the loop body. -/
theorem visit_error_iff {record : R} {f : MonitoredFeature S} {w : World} {e : Exn} :
    (visit spot bro record none f w).1 = .error e ↔
      (readValue bro record f = none ∧ lookupFailed = e) ∨
      ∃ alarm, alarm? spot bro record f = some alarm ∧ bro.event_allocated w.heap.attempts = false ∧
        allocationFailed = e := by
  rw [visit_eq]
  cases read : readValue bro record f with
  | none => simp [alarm?,positiveValue,read]
  | some d =>
    cases alarm? spot bro record f with
    | none => simp
    | some alarm => cases bro.event_allocated w.heap.attempts <;> simp

theorem raised_iff {q : Process S R} {e : Exn} : raised spot bro q = some e ↔
    ∃ record it node, q.receiver.loop = .body record it ∧ q.dsp._features.get? it = some node ∧
      (visit spot bro record none node.value q.receiver.daemon.world).1 = .error e := by
  unfold raised
  cases q.receiver.loop with
  | body record it =>
    constructor
    · intro raises
      obtain ⟨node,here,raises⟩ := Option.bind_eq_some_iff.mp raises
      refine ⟨record, it, node, rfl, here, ?_⟩
      split at raises
      · next returned => rw [returned, Option.some.inj raises]
      · cases raises
    · rintro ⟨_,_,node,same,here,raises⟩
      cases same
      exact Option.bind_eq_some_iff.mpr ⟨node, here, by rw [raises]⟩
  | _ => simp

/-- A message ends the program by Kill, or by the exception that leaves its member function. -/
theorem consume_ended_iff {l : Listener S} (running : l.ended = none) (msg : DBusMessage) (ending : Ending) :
    (l.consume spot platform msg).ended = some ending ↔
      (Dbuspotcher.dispatch msg = some .Kill ∧ platform.send l.dbs._conn.attempts = true ∧ .exit 0 = ending) ∨
      ∃ e, Conversation.Raises spot platform msg l.dbs e ∧ .terminate e = ending := by
  simp only [← Conversation.handle_error_iff, Listener.consume, running, Option.isSome_none, Bool.false_eq_true,
    if_false]
  rcases ran : Dbuspotcher.handle spot platform msg l.dbs with ⟨e | _, next⟩
  · -- Kill itself raises where its reply is refused
    have refused : Dbuspotcher.dispatch msg = some .Kill → platform.send l.dbs._conn.attempts ≠ true := by
      intro kills accepted
      simp [Dbuspotcher.handle,kills,Dbuspotcher.reply,Dbuspotcher._send_flush_unref,accepted] at ran
    simp only [Option.some.injEq, Except.error.injEq, exists_eq_left']
    constructor
    · exact .inr
    · rintro (⟨kills,accepted,_⟩ | same)
      · exact absurd accepted (refused kills)
      · exact same
  · simp only [reduceCtorEq, false_and, exists_false, or_false]
    split
    · next kills =>
      have accepted : platform.send l.dbs._conn.attempts = true := by
        by_contra refused
        simp [Dbuspotcher.handle,kills,Dbuspotcher.reply,Dbuspotcher._send_flush_unref,refused] at ran
      simp [kills,accepted]
    · next other => simp [other]

/-- A turn ends the program exactly when it is a cause of the end. -/
theorem next_ended_iff (running : p.process.ended = none) (turn : Turn R) (ending : Ending) :
    (p.next spot bro platform turn).process.ended = some ending ↔ Ends spot bro platform p turn ending := by
  have consumes : ∀ msg, (p.process.next spot bro platform (.bus msg)).ended = some ending ↔ _ :=
    fun msg => next_bus_ended spot bro platform running msg ▸ consume_ended_iff running msg ending
  constructor
  · intro finished
    have stepped := next_stepped spot bro platform running turn
    generalize (p.next spot bro platform turn).process = q at finished stepped
    cases stepped with
    | nothing silent =>
      rw [running] at finished
      cases finished
    | input event record told takes => simp [Process.next,running] at finished
    | message msg told listens takes =>
      subst told
      rcases (consumes msg).mp finished with ⟨kills,accepted,rfl⟩ | ⟨e,raises,rfl⟩
      · exact .kill msg listens kills accepted
      · exact .handler msg e listens raises
    | callback told handles takes =>
      subst told
      obtain ⟨e,raises,rfl⟩ := Option.map_eq_some_iff.mp finished
      obtain ⟨record,it,node,body,here,failed⟩ := raised_iff.mp raises
      rcases visit_error_iff.mp failed with ⟨unread,rfl⟩ | ⟨alarm,anomalous,refused,rfl⟩
      · exact .lookup handles body here unread
      · exact .event handles body here anomalous refused
    | failed failure told creates silent =>
      subst told
      cases finished
      exact .bus failure creates
    | signal signal told silent =>
      subst told
      cases finished
      exact .signal signal
  · intro ends
    cases ends with
    | bus failure creates => simp [next,running,creates]
    | lookup handles body here unread =>
      have raises : raised spot bro p.process = some lookupFailed :=
        raised_iff.mpr ⟨_, _, _, body, here, visit_error_iff.mpr (.inl ⟨unread,rfl⟩)⟩
      simp [next,running,handles,raises]
    | event handles body here anomalous refused =>
      have raises : raised spot bro p.process = some allocationFailed :=
        raised_iff.mpr ⟨_, _, _, body, here, visit_error_iff.mpr (.inr ⟨_,anomalous,refused,rfl⟩)⟩
      simp [next,running,handles,raises]
    | kill msg listens asks accepted =>
      rw [next_message running listens]
      exact (consumes msg).mpr (.inl ⟨asks,accepted,rfl⟩)
    | handler msg e listens raises =>
      rw [next_message running listens]
      exact (consumes msg).mpr (.inr ⟨e,raises,rfl⟩)
    | signal signal => simp [next,running]

/-- A run ends at the first turn that is a cause, and stays where that turn left it. -/
theorem run_ended_iff (running : p.process.ended = none) (all : List (Turn R)) (ending : Ending) :
    (p.run spot bro platform all).process.ended = some ending ↔
      ∃ before turn after, all = before ++ turn :: after ∧ (p.run spot bro platform before).process.ended = none ∧
        Ends spot bro platform (p.run spot bro platform before) turn ending ∧
        p.run spot bro platform all = (p.run spot bro platform before).next spot bro platform turn := by
  have split : ∀ before turn after, p.run spot bro platform (before ++ turn :: after) =
      ((p.run spot bro platform before).next spot bro platform turn).run spot bro platform after :=
    fun before turn after => Runs.run_append ..
  constructor
  · intro finished
    obtain ⟨before,turn,after,rfl,live,ends⟩ := Runs.first_step (next spot bro platform)
      (fun q => q.process.ended ≠ none) (fun ended => ended running)
      (show (p.run spot bro platform all).process.ended ≠ none by simp [finished])
    have live : (p.run spot bro platform before).process.ended = none := not_not.mp live
    obtain ⟨first,ended⟩ := Option.ne_none_iff_exists'.mp ends
    have stays := (split before turn after).trans (run_ended ended after)
    obtain rfl : first = ending := Option.some.inj (ended.symm.trans (stays ▸ finished))
    exact ⟨before, turn, after, rfl, live, (next_ended_iff live turn first).mp ended, stays⟩
  · rintro ⟨before,turn,after,_,live,ends,stays⟩
    rw [stays]
    exact (next_ended_iff live turn ending).mpr ends

def Turn.message? : Turn R → Option DBusMessage
  | .message msg => some msg
  | _ => none

def Turn.signal? : Turn R → Option Signal
  | .signal sent => some sent
  | _ => none

/-- The messages before the first signal. -/
def heard (all : List (Turn R)) : List DBusMessage :=
  (all.takeWhile (fun turn => turn.signal?.isNone)).filterMap Turn.message?

/-- The end that the first signal brings. -/
def signalled (all : List (Turn R)) : Option Ending := (all.findSome? Turn.signal?).map Signal.ending

/-- A listener whose process another cause may have ended, unless it was over. -/
def endedBy (l : Listener S) (other : Option Ending) : Listener S := { l with ended := l.ended.or other }

/-- While the main thread waits for the bus thread, no turn moves it or calls `callback`. -/
theorem joining_step (spot : Spot S) (bro : Broccoli R) (platform : Platform) (joins : p.point = .joining)
    (turn : Turn R) :
    (p.next spot bro platform turn).point = .joining ∧
    (p.next spot bro platform turn).process.receiver.daemon.nb_events = p.process.receiver.daemon.nb_events ∧
    (p.next spot bro platform turn).process.receiver.daemon.world = p.process.receiver.daemon.world := by
  obtain ⟨conn,_,process⟩ := p
  cases joins
  cases running : process.ended with
  | some ending =>
    have finished : (⟨conn,.joining,process⟩ : Program S R).process.ended = some ending := running
    rw [next_ended finished]
    exact ⟨rfl,rfl,rfl⟩
  | none =>
    cases turn with
    | message msg => simp [next,running,Point.listens,Process.next]
    | listener failure => cases failure <;> simp [next,running]
    | _ => simp [next,running]

/-- A turn is what the listener makes of it, unless it is a signal. -/
theorem joining_listener (spot : Spot S) (bro : Broccoli R) (platform : Platform) (joins : p.point = .joining)
    {turn : Turn R} (quiet : turn.signal? = none) :
    (p.next spot bro platform turn).process.listener =
      p.process.listener.listen spot platform turn.message?.toList := by
  obtain ⟨conn,_,process⟩ := p
  cases joins
  cases running : process.ended with
  | some ending =>
    have finished : (⟨conn,.joining,process⟩ : Program S R).process.ended = some ending := running
    rw [next_ended finished]
    exact (listen_ended spot (l := process.listener) running _).symm
  | none =>
    cases turn with
    | message msg => simp [next,running,Point.listens,Process.next,Process.listener,Process.dsp,Turn.message?,Listener.listen]
    | listener failure => cases failure <;> simp [next,running,Turn.message?,Listener.listen]
    | signal signal => cases quiet
    | _ => simp [next,running,Turn.message?,Listener.listen]

/-- A signal ends the program wherever it is. -/
theorem signal_listener (spot : Spot S) (bro : Broccoli R) (platform : Platform) (p : Program S R)
    (signal : Signal) (rest : List (Turn R)) :
    (p.run spot bro platform (.signal signal :: rest)).process.listener =
      endedBy p.process.listener (some signal.ending) := by
  have first : p.run spot bro platform (.signal signal :: rest) =
      (p.next spot bro platform (.signal signal)).run spot bro platform rest := rfl
  cases running : p.process.ended with
  | some ending =>
    have finished : p.process.listener.ended = some ending := running
    rw [run_ended running, endedBy, finished, Option.some_or, ← finished]
  | none =>
    have struck : (p.next spot bro platform (.signal signal)).process =
        { p.process with ended := some signal.ending } := by
      simp [next,running]
    have finished : (p.next spot bro platform (.signal signal)).process.ended = some signal.ending := by
      rw [struck]
    have lives : p.process.listener.ended = none := running
    rw [first, run_ended finished, struck, endedBy, lives, Option.none_or]
    rfl

/-- `callback` is under way only in a round of input. -/
def Rests (p : Program S R) : Prop := p.point ≠ .handling → p.process.receiver.loop = .idle

theorem next_rests (rests : p.Rests) (turn : Turn R) : (p.next spot bro platform turn).Rests := by
  cases running : p.process.ended with
  | some ending => rwa [next_ended running]
  | none =>
    by_cases handles : p.point = .handling
    · intro left
      cases turn with
      | handled =>
        -- the round is over only when `callback` has returned
        cases loop : p.process.receiver.loop with
        | idle => simp [next,running,handles,loop]
        | _ => simp [next,running,handles,loop] at left
      | input event record =>
        by_cases registered : p.conn.registered event = true <;> simp [next,running,handles,registered] at left
      | message msg => simp [next,running,handles,Point.listens] at left
      | listener failure => cases failure <;> simp [next,running,handles] at left
      | _ => simp [next,running,handles] at left
    · have idle := rests handles
      intro _
      cases turn with
      | message msg =>
        cases listens : p.point.listens with
        | true => simp [next,running,listens,(next_bus spot bro platform running msg).2,idle]
        | false => simp [next,running,listens,idle]
      | alive answer => cases point : p.point <;> cases answer <;> simp_all [next]
      | listener failure => cases point : p.point <;> cases failure <;> simp_all [next]
      | _ => cases point : p.point <;> simp_all [next]

theorem run_joining (spot : Spot S) (bro : Broccoli R) (platform : Platform) (joins : p.point = .joining)
    (all : List (Turn R)) :
    (p.run spot bro platform all).point = .joining ∧
    (p.run spot bro platform all).process.receiver.daemon.nb_events = p.process.receiver.daemon.nb_events ∧
    (p.run spot bro platform all).process.receiver.daemon.world = p.process.receiver.daemon.world := by
  induction all generalizing p with
  | nil => exact ⟨joins,rfl,rfl⟩
  | cons turn rest ih =>
    obtain ⟨joined,events,world⟩ := joining_step spot bro platform joins turn
    obtain ⟨joined',events',world'⟩ := ih joined
    exact ⟨joined', events'.trans events, world'.trans world⟩

/-- The listener alone, up to the first signal. -/
theorem run_listener (spot : Spot S) (bro : Broccoli R) (platform : Platform) (joins : p.point = .joining)
    (all : List (Turn R)) : (p.run spot bro platform all).process.listener =
      endedBy (p.process.listener.listen spot platform (heard all)) (signalled all) := by
  induction all generalizing p with
  | nil => exact (congrArg (Listener.mk _) (Option.or_none ..)).symm
  | cons turn rest ih =>
    cases struck : turn.signal? with
    | some signal =>
      obtain rfl : turn = .signal signal := by
        cases turn <;> cases struck
        rfl
      rw [signal_listener]
      rfl
    | none =>
      have first : p.run spot bro platform (turn :: rest) =
          (p.next spot bro platform turn).run spot bro platform rest := rfl
      have front : heard (turn :: rest) = turn.message?.toList ++ heard rest := by
        cases told : turn.message? <;> simp [heard,struck,told]
      have back : signalled (turn :: rest) = signalled rest := by simp [signalled,struck]
      rw [first, ih (joining_step spot bro platform joins turn).1, joining_listener spot bro platform joins struck,
        front, back]
      congr 1
      exact (Runs.run_append ..).symm

end Program

open Program in
/-- Every end of every run of the program has its cause: the bus or its name is not to be had, a
value is not in the record, an event is not allocated, Kill is answered, a reply is refused,
`reset` raises what its `catch` does not take, or a signal comes. Each of them ends the program
at once, and no turn changes it after that. -/
theorem how_the_program_ends {S R : Type} (spot : Spot S) (bro : Broccoli R) (platform : Platform)
    (parser : IniParser) (s : Settings) (ini : Dictionary) (all : List (Program.Turn R)) (ending : Ending) :
    ((ready parser spot s ini).run spot bro platform all).process.ended = some ending ↔
      ∃ before turn after, all = before ++ turn :: after ∧
        ((ready parser spot s ini).run spot bro platform before).process.ended = none ∧
        Ends spot bro platform ((ready parser spot s ini).run spot bro platform before) turn ending ∧
        (ready parser spot s ini).run spot bro platform all =
          ((ready parser spot s ini).run spot bro platform before).next spot bro platform turn :=
  run_ended_iff rfl all ending

open Program in
/-- A connection that is lost is not taken up again: `callback` has returned and is not called
any more, and the bus thread goes on as if it had the dispatcher for itself, until a signal
ends it. -/
theorem lost_connection_leaves_listener {S R : Type} (spot : Spot S) (bro : Broccoli R) (platform : Platform)
    (parser : IniParser) (s : Settings) (ini : Dictionary) (before after : List (Program.Turn R))
    (joins : ((ready parser spot s ini).run spot bro platform before).point = .joining) :
    let p := (ready parser spot s ini).run spot bro platform before
    let q := (ready parser spot s ini).run spot bro platform (before ++ after)
    q.point = .joining ∧ q.process.receiver.loop = .idle ∧
    q.process.receiver.daemon.nb_events = p.process.receiver.daemon.nb_events ∧
    q.process.receiver.daemon.world = p.process.receiver.daemon.world ∧
    q.process.listener =
      endedBy (p.process.listener.listen spot platform (heard after)) (signalled after) := by
  intro p q
  have rests : q.Rests := Runs.invariant (Program.next spot bro platform) Rests
    (fun _ turn rests => next_rests rests turn) _ _ (fun _ => rfl)
  have later : q = p.run spot bro platform after := Runs.run_append ..
  have alone := run_listener spot bro platform joins after
  obtain ⟨joined,events,world⟩ := run_joining spot bro platform joins after
  rw [← later] at joined events world alone
  exact ⟨joined, rests (by rw [joined]; decide), events, world, alone⟩

open Program in
/-- Bro is gone after a round without input. The Reset of `mem` that comes then is handled, and
SIGTERM ends the process before the next one. -/
theorem reset_after_disconnect :
    let record : List (String × BroVal) :=
      [("mem", ⟨BRO_TYPE_DOUBLE, 0x4059000000000000⟩), ("swap", ⟨BRO_TYPE_DOUBLE, 0x4059000000000000⟩)]
    let bro := Broccoli.ofFields (fun _ => true)
    let s : Settings := ⟨"i".toList, "127.0.0.1".toList, 47760, "e".toList⟩
    let reset := DBusMessage.call "bro.spot.Spot" "Reset" [.string "mem"]
    let before : List (Program.Turn (List (String × BroVal))) :=
      [.alive true, .alive true, .listener none, .alive true, .handled, .alive false]
    let p := (ready .plain (.returning 3) s .memAndSwap).run (.returning 3) bro .calm before
    let q := (ready .plain (.returning 3) s .memAndSwap).run (.returning 3) bro .calm
      (before ++ [.message reset, .alive true, .input "e".toList record, .signal .SIGTERM, .message reset])
    q.point = .joining ∧ q.process.receiver.loop = .idle ∧
    q.process.receiver.daemon.nb_events = p.process.receiver.daemon.nb_events ∧
    q.process.receiver.daemon.world = p.process.receiver.daemon.world ∧
    q.process.listener =
      endedBy (p.process.listener.listen (.returning 3) .calm [reset]) (some (.exit 15)) := by
  intro record bro s reset before
  exact lost_connection_leaves_listener (.returning 3) bro .calm .plain s .memAndSwap before
    [.message reset, .alive true, .input "e".toList record, .signal .SIGTERM, .message reset] (by decide +kernel)

end BroSpotd
