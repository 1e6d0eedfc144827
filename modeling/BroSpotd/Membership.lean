import BroSpotd.Attrition
import BroSpotd.Safety

/-! What the program monitors, in runs in which anything may fail and the threads interleave,
and what a client is told of it. A feature is lost with a Reset whose replacement is not built,
and with nothing else. -/
namespace BroSpotd

open Dbuspotcher

variable {S R : Type}

theorem survives_append (first second : List (Daemon.Action R)) (e : Entry) :
    e.survives (first ++ second) = (e.survives first && e.survives second) := by
  simp [Entry.survives]

theorem survives_one (a : Daemon.Action R) (e : Entry) : e.survives [a] = !a.fails e.name := by
  simp [Entry.survives]

namespace Process

variable {spot : Spot S} (keeps : spot.KeepsConfig) (bro : Broccoli R) (platform : Platform)

theorem survives_effective (p : Process S R) {turn : Turn R} (other : ∀ msg, turn ≠ .bus msg) (e : Entry) :
    e.survives (p.effective platform turn) = true := by
  unfold effective
  split
  · rfl
  · cases turn with
    | bus msg => exact absurd rfl (other msg)
    | arrive record =>
      dsimp only
      split
      · split <;> rfl
      · rfl
    | receiver =>
      dsimp only
      split
      · split <;> rfl
      · rfl

include keeps

/-- A step of the loop writes what has the profile of what it read. -/
theorem receiver_profiles (p : Process S R) :
    (p.next spot bro platform .receiver).dsp.profiles spot = p.dsp.profiles spot := by
  obtain ⟨⟨d,loop⟩,conn,ended⟩ := p
  cases ended with
  | some ending => rfl
  | none =>
    cases loop with
    | idle => rfl
    | test record it => cases it <;> rfl
    | increment record it =>
      simp only [next, Option.isSome_none, Bool.false_eq_true, if_false, Receiver.step]
      split <;> rfl
    | body record it =>
      simp only [next, Option.isSome_none, Bool.false_eq_true, if_false, Receiver.step]
      split
      · rfl
      · next node here =>
        apply NodeList.values_update_view _ here
        rw [visit_feature]
        exact observe_profile keeps bro record node.value

/-- What takes effect with a turn decides which profiles are left. -/
theorem turn_survivors {p : Process S R} {entries : List Entry} (distinct : (entries.map Entry.name).Nodup)
    (perm : (p.dsp.profiles spot).Perm (entries.map Entry.profile)) (turn : Turn R) :
    ((p.next spot bro platform turn).dsp.profiles spot).Perm
      ((entries.filter (fun e => e.survives (p.effective platform turn))).map Entry.profile) := by
  have all (other : ∀ msg, turn ≠ .bus msg) :
      entries.filter (fun e => e.survives (p.effective platform turn)) = entries :=
    List.filter_eq_self.mpr (fun e _ => survives_effective platform p other e)
  cases turn with
  | arrive record =>
    rw [all (by simp)]
    have same : (p.next spot bro platform (.arrive record)).dsp = p.dsp := by
      obtain ⟨⟨d,loop⟩,conn,ended⟩ := p
      cases ended with
      | some ending => rfl
      | none => cases loop <;> rfl
    rw [same]
    exact perm
  | receiver =>
    rw [all (by simp), receiver_profiles keeps]
    exact perm
  | bus msg =>
    cases running : p.ended with
    | some ending =>
      simp only [next, effective, running, Option.isSome_some, if_true, Entry.survives, List.any_nil, Bool.not_false,
        List.filter_true]
      exact perm
    | none =>
      obtain ⟨feature,-,-,takes,shared⟩ | ⟨silent,shared⟩ := Serial.bus_effective spot bro platform running msg
      · rw [shared, takes]
        simp only [survives_one]
        exact next_survivors keeps bro (d := p.receiver.daemon) distinct perm
          (.reset feature (platform.reset_fault p.conn.attempts))
      · rw [shared, silent]
        simp only [Entry.survives, List.any_nil, Bool.not_false, List.filter_true]
        exact perm

end Process

namespace Program

/-- The actions that take effect with a turn of the program. -/
def acts (platform : Platform) (p : Program S R) (turn : Turn R) : List (Daemon.Action R) :=
  (p.taken turn).flatMap (p.process.effective platform)

def actions (spot : Spot S) (bro : Broccoli R) (platform : Platform) (p : Program S R) (all : List (Turn R)) :
    List (Daemon.Action R) := Runs.output (next spot bro platform) (acts platform) p all

variable {spot : Spot S} (keeps : spot.KeepsConfig) (bro : Broccoli R) (platform : Platform)
include keeps

theorem step_survivors {p : Program S R} {entries : List Entry} (distinct : (entries.map Entry.name).Nodup)
    (perm : (p.process.dsp.profiles spot).Perm (entries.map Entry.profile)) (turn : Turn R) :
    ((p.next spot bro platform turn).process.dsp.profiles spot).Perm
      ((entries.filter (fun e => e.survives (p.acts platform turn))).map Entry.profile) := by
  have idle (silent : p.taken turn = []) : entries.filter (fun e => e.survives (p.acts platform turn)) = entries := by
    simp only [acts, silent, List.flatMap_nil, Entry.survives, List.any_nil, Bool.not_false, List.filter_true]
  have alone {t : BroSpotd.Turn R} (takes : p.taken turn = [t]) :
      p.acts platform turn = p.process.effective platform t := by
    simp [acts,takes]
  cases running : p.process.ended with
  | some ending =>
    rw [next_ended running, idle (by simp [taken,running])]
    exact perm
  | none =>
    have stepped := next_stepped spot bro platform running turn
    generalize (p.next spot bro platform turn).process = q at stepped ⊢
    cases stepped with
    | nothing silent => rw [idle silent]; exact perm
    | input event record told takes =>
      rw [alone takes]
      exact Process.turn_survivors keeps bro platform distinct perm _
    | message msg told listens takes =>
      rw [alone takes]
      exact Process.turn_survivors keeps bro platform distinct perm _
    | callback told handles takes =>
      rw [alone takes]
      exact Process.turn_survivors keeps bro platform distinct perm .receiver
    | failed failure told creates silent => rw [idle silent]; exact perm
    | signal signal told silent => rw [idle silent]; exact perm

theorem run_survivors {p : Program S R} {entries : List Entry} (distinct : (entries.map Entry.name).Nodup)
    (perm : (p.process.dsp.profiles spot).Perm (entries.map Entry.profile)) (all : List (Turn R)) :
    ((p.run spot bro platform all).process.dsp.profiles spot).Perm
      ((entries.filter (fun e => e.survives (p.actions spot bro platform all))).map Entry.profile) := by
  apply Runs.related_output (next spot bro platform) (acts platform)
    (fun q log => (q.process.dsp.profiles spot).Perm ((entries.filter (fun e => e.survives log)).map Entry.profile))
  · intro q log turn left
    have fewer : ((entries.filter (fun e => e.survives log)).map Entry.name).Nodup :=
      distinct.sublist (List.filter_sublist.map Entry.name)
    have step := step_survivors keeps bro platform fewer left turn
    simp only [List.filter_filter] at step
    simp only [survives_append, Bool.and_comm (Entry.survives log _)]
    exact step
  · simpa [Entry.survives] using perm

end Program

/-- The first reply to a message, where the bus takes it, comes next and before whatever follows. -/
theorem Conversation.first_sent (spot : Spot S) {platform : Platform} {msg : DBusMessage} {dbs : Dbuspotcher S}
    {title : String} {reply : Reply} {rest : List (String × Reply)}
    (made : (response spot platform msg dbs).replies = (title,reply) :: rest)
    (accepted : platform.send dbs._conn.attempts = true) :
    ∃ k, (handle spot platform msg dbs).2._conn.sent =
      dbs._conn.sent ++ reply :: (rest.take k).map Prod.snd := by
  rw [handle_deliver, made]
  obtain ⟨k,sent⟩ := deliver_sent platform rest (response spot platform msg dbs).last
    ⟨effect spot platform msg dbs, dbs._conn.attempts + 1, dbs._conn.sent ++ [reply]⟩
  refine ⟨k, ?_⟩
  simp only [Response.deliver, andThen, _send_flush_unref, accepted, if_true, sent, List.append_assoc,
    List.singleton_append]

/-- What a client is told of entries, some of which the actions took out, by the replies from
a connection's on. -/
structure Told (platform : Platform) (entries : List Entry) (actions : List (Daemon.Action R))
    (conn : DBusConnection) (sent : List Reply) (msg : DBusMessage) : Prop where
  features : dispatch msg = some .Features → ∃ names : List String,
    names.Perm ((entries.filter (fun e => e.survives actions)).map Entry.name) ∧
    sent = conn.sent ++ [msg.new_method_return (names.map .string)]
  config : ∀ e ∈ entries, msg.feature = some e.name → e.survives actions = true → dispatch msg = some .Config →
    sent = conn.sent ++ [msg.new_method_return (append_spot_config (platform.beside conn.attempts) e.config)]
  unknown : ∀ e ∈ entries, msg.feature = some e.name → e.survives actions = false →
    dispatch msg = some .Status ∨ dispatch msg = some .Config ∨ dispatch msg = some .Reset →
    ∃ more, sent = conn.sent ++ msg.new_method_return
      [.string ("[ERROR] " ++ ("The feature '" ++ e.name ++ "' is unknown\n"))] :: more

/-- With the profiles of the entries that are left, the listener tells of these. -/
theorem told_of_profiles {spot : Spot S} {platform : Platform} {entries : List Entry}
    {actions : List (Daemon.Action R)} (distinct : (entries.map Entry.name).Nodup) {dbs : Dbuspotcher S}
    (left : (dbs._dsp.profiles spot).Perm ((entries.filter (fun e => e.survives actions)).map Entry.profile))
    (accepted : platform.send dbs._conn.attempts = true) (msg : DBusMessage) :
    Told platform entries actions dbs._conn (handle spot platform msg dbs).2._conn.sent msg := by
  have fewer : ((entries.filter (fun e => e.survives actions)).map Entry.name).Nodup :=
    distinct.sublist (List.filter_sublist.map Entry.name)
  have only {title : String} {args : List DBusArg} (made : response spot platform msg dbs = .one msg title args) :
      (handle spot platform msg dbs).2._conn.sent = dbs._conn.sent ++ [msg.new_method_return args] := by
    have replies : (response spot platform msg dbs).replies = [(title, msg.new_method_return args)] := by
      rw [made]
      rfl
    obtain ⟨k,sent⟩ := Conversation.first_sent spot replies accepted
    rw [List.take_nil] at sent
    exact sent
  constructor
  · intro asks
    have made : response spot platform msg dbs = .one msg "FEATURES" (dbs._dsp.names.map .string) := by
      simp only [response, asks]
    exact ⟨dbs._dsp.names, names_of_profiles left, only made⟩
  · intro e member named stays asks
    have config : dbs._dsp.config spot e.name = .ok e.config :=
      config_of_profiles spot left fewer (List.mem_filter.mpr ⟨member,stays⟩)
    rw [Dispotcher.config_eq] at config
    cases found : dbs._dsp.lookup e.name with
    | none =>
      rw [found] at config
      cases config
    | some f =>
      rw [found] at config
      have made : response spot platform msg dbs = .one msg ("SPOT CONFIG " ++ e.name)
          (append_spot_config (platform.beside dbs._conn.attempts) e.config) := by
        simp only [response, asks, Response.query, named, found, Except.ok.inj config]
      exact only made
  · intro e member named lost asks
    have gone : dbs._dsp.lookup e.name = none := lost_of_profiles left lost
    have made : ∃ rest, (response spot platform msg dbs).replies = ("ERROR",
        msg.new_method_return [.string ("[ERROR] " ++ ("The feature '" ++ e.name ++ "' is unknown\n"))]) :: rest := by
      obtain status | config | reset := asks
      · simp [response,status,Response.query,named,gone,Response.refusal,Dispotcher.unknown]
      · simp [response,config,Response.query,named,gone,Response.refusal,Dispotcher.unknown]
      · simp [response,reset,Response.reset,named,gone,Response.refusal,Dispotcher.unknown]
    obtain ⟨rest,made⟩ := made
    obtain ⟨k,sent⟩ := Conversation.first_sent spot made accepted
    exact ⟨_, sent⟩

open Program in
/-- What a client is told after any run in which the program lives: Features lists the loaded
names without those of failed resets, Config sends of a feature that is left what
`append_spot_config` makes of the config that was loaded for it, and a lost one is unknown to
every method. -/
theorem clients_see_survivors {S R : Type} {spot : Spot S} (keeps : spot.KeepsConfig) (bro : Broccoli R)
    (platform : Platform) (parser : IniParser) (s : Settings) (ini : Dictionary) (all : List (Program.Turn R))
    (live : ((ready parser spot s ini).run spot bro platform all).process.ended = none)
    (listens : ((ready parser spot s ini).run spot bro platform all).point.listens = true)
    (accepted : platform.send ((ready parser spot s ini).run spot bro platform all).process.conn.attempts = true)
    (msg : DBusMessage) :
    Told platform (loadEntries parser ini) ((ready parser spot s ini).actions spot bro platform all)
      ((ready parser spot s ini).run spot bro platform all).process.conn
      ((ready parser spot s ini).run spot bro platform (all ++ [.message msg])).process.conn.sent msg := by
  have loaded : (ready (R := R) parser spot s ini).process.dsp.profiles spot =
      (loadEntries parser ini).map Entry.profile := load_profiles keeps parser ini rfl
  have distinct := loadEntries_distinct parser ini
  have left := Program.run_survivors keeps bro platform distinct (List.Perm.of_eq loaded) all
  have last : (ready parser spot s ini).run spot bro platform (all ++ [.message msg]) =
      ((ready parser spot s ini).run spot bro platform all).next spot bro platform (.message msg) :=
    Runs.run_append ..
  rw [last, next_message live listens, next_bus_conn spot bro platform live]
  have sends : platform.send
      ((ready parser spot s ini).run spot bro platform all).process.listener.dbs._conn.attempts = true := accepted
  exact told_of_profiles distinct left sends msg

open Program in
/-- The replacement of `mem` cannot be built; its Reset is answered and `mem` is gone. -/
theorem mem_unknown_after_reset :
    let bro := Broccoli.ofFields (fun _ => true)
    let platform : Platform := { Platform.calm with reset_fault := fun _ => some (.invalid_argument "level") }
    let s : Settings := ⟨"i".toList, "127.0.0.1".toList, 47760, "e".toList⟩
    let all : List (Program.Turn (List (String × BroVal))) := [.alive true, .alive true, .listener none,
      .message (.call "bro.spot.Spot" "Reset" [.string "mem"])]
    let msg := DBusMessage.call "bro.spot.Spot" "Config" [.string "mem"]
    Told platform (loadEntries .plain .memAndSwap)
      ((ready .plain (.returning 3) s .memAndSwap).actions (.returning 3) bro platform all)
      ((ready .plain (.returning 3) s .memAndSwap).run (.returning 3) bro platform all).process.conn
      ((ready .plain (.returning 3) s .memAndSwap).run (.returning 3) bro platform
        (all ++ [.message msg])).process.conn.sent msg := by
  intro bro platform s all msg
  have live : ((ready .plain (.returning 3) s .memAndSwap).run (.returning 3) bro platform all).process.ended =
      none := by decide +kernel
  have listens : ((ready .plain (.returning 3) s .memAndSwap).run (.returning 3) bro platform all).point.listens =
      true := by decide +kernel
  exact clients_see_survivors (Spot.returning_keepsConfig 3) bro platform .plain s .memAndSwap all live listens rfl msg

end BroSpotd
