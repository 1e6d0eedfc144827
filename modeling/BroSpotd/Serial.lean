import BroSpotd.Ledger
import BroSpotd.Library.Paired
import BroSpotd.Threads

/-! The two threads against one thread. A Reset takes effect where it is handled, a record
where the loop leaves the last node. In that order whole callbacks and whole resets, one
after the other, come to the same features. A feature that is reset after the loop has passed
it awaits the record again, as if it had been reset before the record came. -/
namespace BroSpotd

variable {S R : Type}

/-- The record that the loop has yet to bring to some node or to leave the last one with. -/
def Loop.pending : Loop R → Option R
  | .test record (some _) => some record
  | .body record _ => some record
  | .increment record _ => some record
  | _ => none

deriving instance DecidableEq for Daemon.Action

def Daemon.Action.record? : Daemon.Action R → Option R
  | .record r => some r
  | .reset _ _ => none

namespace Process

/-- What takes effect with a turn, as an action of the daemon. -/
def effective (platform : Platform) (p : Process S R) (turn : Turn R) : List (Daemon.Action R) :=
  if p.ended.isSome then []
  else match turn with
    | .arrive record =>
      match p.receiver.loop with
      | .idle => if p.dsp._features.begin_ = none then [.record record] else []
      | _ => []
    | .receiver =>
      match p.receiver.loop with
      | .increment record it =>
        if (p.dsp._features.get? it).isSome ∧ p.dsp._features.next it = none then [.record record] else []
      | _ => []
    | .bus msg =>
      match Dbuspotcher.dispatch msg, msg.feature with
      | some .Reset, some feature => [.reset feature (platform.reset_fault p.conn.attempts)]
      | _, _ => []

/-- The actions of a run in the order in which they take effect. -/
def serial (spot : Spot S) (bro : Broccoli R) (platform : Platform) (p : Process S R)
    (turns : List (Turn R)) : List (Daemon.Action R) :=
  Runs.output (next spot bro platform) (effective platform) p turns

/-- The records that `callback` is called with. -/
def received (p : Process S R) (turn : Turn R) : List R :=
  if p.ended.isSome then []
  else match turn with
    | .arrive record =>
      match p.receiver.loop with
      | .idle => [record]
      | _ => []
    | _ => []

/-- The lookup that the turn makes, if it makes one, succeeds. -/
def reads (bro : Broccoli R) (p : Process S R) (turn : Turn R) : Bool :=
  match turn, p.receiver.loop with
  | .receiver, .body record it => (p.dsp._features.get? it).all (fun node =>
      (bro.bro_record_get_named_val record node.value._name node.value._bro_type).1.isSome)
  | _, _ => true

instance decidableSpares (p : Process S R) : (turn : Turn R) → Decidable (p.Spares turn)
  | .arrive _ => isTrue trivial
  | .receiver => isTrue trivial
  | .bus msg => decidable_of_iff
      (p.ended = none → Dbuspotcher.dispatch msg = some .Reset →
        (msg.feature.bind p.dsp.scan).all (fun node => p.receiver.loop.iterator ≠ some node.id) = true)
      (by simp only [Spares, Option.all_eq_true, Option.bind_eq_some_iff, decide_eq_true_eq]; grind)

end Process

/-- A record is handled to the end of the list. -/
def Daemon.Serves (spot : Spot S) (bro : Broccoli R) (d : Daemon S) : Daemon.Action R → Prop
  | .record record => (callback spot bro record d).1 = .ok ()
  | .reset _ _ => True

namespace Serial

/-- A feature of the loop that has had the record, beside the serial one that will get it. -/
def Passed (spot : Spot S) (bro : Broccoli R) (record : R) (node : Node (MonitoredFeature S))
    (f : MonitoredFeature S) : Prop :=
  node.value = observe spot bro record f ∧
  (bro.bro_record_get_named_val record f._name f._bro_type).1.isSome = true

/-- A feature of the loop that awaits the record. An earlier visit may have fixed its type. -/
def Awaits (bro : Broccoli R) (record : R) (node : Node (MonitoredFeature S))
    (f : MonitoredFeature S) : Prop :=
  node.value._name = f._name ∧ node.value._spot = f._spot ∧
  bro.bro_record_get_named_val record node.value._name node.value._bro_type =
    bro.bro_record_get_named_val record f._name f._bro_type

/-- The nodes behind and ahead of the loop, beside the serial features in the same places. -/
def Divided (spot : Spot S) (bro : Broccoli R) (record : R)
    (passed awaiting : List (Node (MonitoredFeature S))) (features : List (MonitoredFeature S)) : Prop :=
  ∃ before after, features = before ++ after ∧
    List.Forall₂ (Passed spot bro record) passed before ∧ List.Forall₂ (Awaits bro record) awaiting after

/-- The process in the middle of a record, beside a daemon that has not received it yet. -/
inductive Related (spot : Spot S) (bro : Broccoli R) (p : Process S R) (d : Daemon S) : Prop
  | rest (done : p.receiver.loop.pending = none) (same : p.dsp.features = d.dsp.features)
  | ahead {record : R} {it : Nat} {passed awaiting : List (Node (MonitoredFeature S))}
      (loop : p.receiver.loop = .test record (some it) ∨ p.receiver.loop = .body record it)
      (split : p.dsp._features.nodes = passed ++ awaiting)
      (first : awaiting.head?.map Node.id = some it)
      (divided : Divided spot bro record passed awaiting d.dsp.features)
  | passing {record : R} {it : Nat} {passed awaiting : List (Node (MonitoredFeature S))}
      (loop : p.receiver.loop = .increment record it)
      (split : p.dsp._features.nodes = passed ++ awaiting)
      (last : passed.getLast?.map Node.id = some it)
      (divided : Divided spot bro record passed awaiting d.dsp.features)

variable {spot : Spot S} {bro : Broccoli R} {record : R}

theorem Passed.name {node : Node (MonitoredFeature S)} {f : MonitoredFeature S}
    (passed : Passed spot bro record node f) : node.value._name = f._name := by rw [passed.1]; rfl

theorem awaits_self (node : Node (MonitoredFeature S)) : Awaits bro record node node.value := ⟨rfl,rfl,rfl⟩

/-- The record is the same to both when the loop comes to the node. -/
theorem Awaits.observed {node : Node (MonitoredFeature S)} {f : MonitoredFeature S}
    (awaits : Awaits bro record node f)
    (read : (bro.bro_record_get_named_val record node.value._name node.value._bro_type).1.isSome = true) :
    Passed spot bro record ⟨node.id, observe spot bro record node.value⟩ f := by
  obtain ⟨named,state,looked⟩ := awaits
  rw [looked] at read
  rw [named] at looked
  exact ⟨by simp only [observe, positiveValue, readValue, state, named, looked], read⟩

/-- What `reset` builds of a feature that awaits the record awaits it as well. -/
theorem Awaits.replaced {node : Node (MonitoredFeature S)} {f : MonitoredFeature S}
    (awaits : Awaits bro record node f) (spot : Spot S) (id : Nat) :
    Awaits bro record ⟨id, Dispotcher.replacement spot node.value⟩ (Dispotcher.replacement spot f) := by
  obtain ⟨named,state,looked⟩ := awaits
  refine ⟨named, ?_, looked⟩
  simp only [Dispotcher.replacement, MonitoredFeature.new, MonitoredFeature.config, state]

/-- What `reset` builds of a feature that has had the record awaits it again. -/
theorem Passed.replaced (keeps : spot.KeepsConfig) {node : Node (MonitoredFeature S)} {f : MonitoredFeature S}
    (passed : Passed spot bro record node f) (id : Nat) :
    Awaits bro record ⟨id, Dispotcher.replacement spot node.value⟩ (Dispotcher.replacement spot f) := by
  obtain ⟨observed,read⟩ := passed
  obtain ⟨value,stored,_,looked⟩ := bro.lookup_some read
  have config : spot.config (observe spot bro record f)._spot = spot.config f._spot := by
    unfold observe
    dsimp only
    split
    · exact keeps.step _ _
    · rfl
  refine ⟨by rw [observed]; rfl, ?_, ?_⟩
  · simp only [Dispotcher.replacement, MonitoredFeature.new, MonitoredFeature.config, observed, config]
  · -- the field's own type leads to the same field
    have again := bro.present record f._name value.tag value stored (.inr rfl)
    simp only [Dispotcher.replacement, MonitoredFeature.new, observed, observe, looked, again]

/-- What `reset` leaves at the tail: its replacement, if nothing was raised. -/
def appended {α : Type} (fault : Option Exn) (replacement : α) : List α :=
  match fault with
  | none => [replacement]
  | some _ => []

theorem reset_nodes {dsp : Dispotcher S} {feature : String} {node : Node (MonitoredFeature S)}
    (found : dsp.scan feature = some node) (fault : Option Exn) :
    (dsp.reset spot fault feature).2._features.nodes =
      dsp._features.nodes.eraseP (fun node => node.value._name = feature) ++
        appended fault ⟨dsp._features.next_id, Dispotcher.replacement spot node.value⟩ := by
  have named := Dispotcher.scan_name found
  have erased := NodeList.nodes_erase_found found
  cases fault with
  | none =>
    simp only [Dispotcher.reset, found, NodeList.emplace_back, erased, appended, Dispotcher.replacement, named]
    rfl
  | some e => simp only [Dispotcher.reset, found, erased, appended, List.append_nil]

theorem reset_features {dsp : Dispotcher S} {feature : String} {f : MonitoredFeature S}
    (found : dsp.lookup feature = some f) (fault : Option Exn) :
    (dsp.reset spot fault feature).2.features = dsp.features.eraseP (fun f => f._name = feature) ++
      appended fault (Dispotcher.replacement spot f) := by
  cases fault with
  | none => exact (Dispotcher.reset_known found spot).2
  | some e => simpa only [appended, List.append_nil] using (Dispotcher.reset_fault found spot e).2

/-- A reset acts alike on the same features. -/
theorem reset_same {dsp other : Dispotcher S} (same : dsp.features = other.features) (fault : Option Exn)
    (feature : String) :
    (dsp.reset spot fault feature).2.features = (other.reset spot fault feature).2.features := by
  have looked : dsp.lookup feature = other.lookup feature := by simp only [Dispotcher.lookup, same]
  cases found : other.lookup feature with
  | none => simpa only [Dispotcher.reset_unknown (looked.trans found), Dispotcher.reset_unknown found]
  | some f => simp only [reset_features (looked.trans found), reset_features found, same]

theorem appended_pair (fault : Option Exn) {node : Node (MonitoredFeature S)} {f : MonitoredFeature S}
    (awaits : Awaits bro record node f) :
    List.Forall₂ (Awaits bro record) (appended fault node) (appended fault f) := by
  cases fault with
  | none => exact .cons awaits .nil
  | some e => exact .nil

/-- A reset divides the nodes and the serial features alike. The loop's node, if spared, stays
the first ahead or the last behind. -/
theorem Divided.reset (keeps : spot.KeepsConfig) {passed awaiting : List (Node (MonitoredFeature S))}
    {dsp other : Dispotcher S} (divided : Divided spot bro record passed awaiting other.features)
    (split : dsp._features.nodes = passed ++ awaiting) (fault : Option Exn) (feature : String) :
    ∃ passed' awaiting', (dsp.reset spot fault feature).2._features.nodes = passed' ++ awaiting' ∧
      Divided spot bro record passed' awaiting' (other.reset spot fault feature).2.features ∧
      (∀ node, awaiting.head? = some node → dsp.scan feature ≠ some node → awaiting'.head? = some node) ∧
      (∀ node, passed.getLast? = some node → dsp.scan feature ≠ some node →
        passed'.getLast? = some node) := by
  let name (node : Node (MonitoredFeature S)) : String := node.value._name
  have scanned : dsp.scan feature =
      (Keyed.find name feature passed).or (Keyed.find name feature awaiting) := by
    rw [← Keyed.find_append, ← split]
    rfl
  have looked : ∀ before after, other.features = before ++ after →
      other.lookup feature = (Keyed.find MonitoredFeature._name feature before).or
        (Keyed.find MonitoredFeature._name feature after) := by
    intro before after parts
    rw [← Keyed.find_append, ← parts]
    rfl
  obtain ⟨before,after,parts,had,await⟩ := divided
  have both := looked before after parts
  rcases Paired.find name MonitoredFeature._name (fun _ _ => Passed.name) had feature with
    ⟨unseen,missed⟩ | ⟨x,f,found,hit,pair⟩
  · rcases Paired.find name MonitoredFeature._name (fun _ _ awaits => awaits.1) await feature with
      ⟨unseen',missed'⟩ | ⟨x,f,found,hit,pair⟩
    · rw [unseen, unseen'] at scanned
      rw [missed, missed'] at both
      refine ⟨passed, awaiting, by simpa [Dispotcher.reset,scanned] using split, ?_,
        fun _ first _ => first, fun _ last _ => last⟩
      rw [Dispotcher.reset_unknown both]
      exact ⟨before,after,parts,had,await⟩
    · rw [unseen, found, Option.none_or] at scanned
      rw [missed, hit, Option.none_or] at both
      have taken := Paired.eraseP name MonitoredFeature._name (fun _ _ awaits => awaits.1) await feature
      have tail := appended_pair fault (pair.replaced spot dsp._features.next_id)
      refine ⟨passed, _, ?_, ⟨before, _, ?_, had, List.rel_append taken tail⟩, ?_, fun _ last _ => last⟩
      · rw [reset_nodes scanned, split, Keyed.eraseP_append_missing name unseen, List.append_assoc]
      · rw [reset_features both, parts, Keyed.eraseP_append_missing _ missed, List.append_assoc]
      · intro node first spares
        have stays := Keyed.head?_eraseP name found first (fun same => spares (by rw [scanned, same]))
        simp [stays]
  · rw [found, Option.some_or] at scanned
    rw [hit, Option.some_or] at both
    have taken := Paired.eraseP name MonitoredFeature._name (fun _ _ => Passed.name) had feature
    have tail := appended_pair fault (pair.replaced keeps dsp._features.next_id)
    refine ⟨_, _, ?_, ⟨_, _, ?_, taken, List.rel_append await tail⟩, ?_, ?_⟩
    · rw [reset_nodes scanned, split, Keyed.eraseP_append_found name found, List.append_assoc]
    · rw [reset_features both, parts, Keyed.eraseP_append_found _ hit, List.append_assoc]
    · intro node first _
      simp [first]
    · intro node last spares
      exact Keyed.getLast?_eraseP name found last (fun same => spares (by rw [scanned, same]))

/-- The loop has left the last node: every feature has had the record. -/
theorem Divided.finished {passed : List (Node (MonitoredFeature S))} {features : List (MonitoredFeature S)}
    (divided : Divided spot bro record passed [] features) :
    passed.map Node.value = features.map (observe spot bro record) ∧
    ∀ f ∈ features, (bro.bro_record_get_named_val record f._name f._bro_type).1.isSome = true := by
  obtain ⟨before,after,rfl,had,await⟩ := divided
  cases await
  rw [List.append_nil]
  induction had with
  | nil => exact ⟨rfl,nofun⟩
  | cons first rest ih =>
    obtain ⟨values,readable⟩ := ih
    refine ⟨?_, List.forall_mem_cons.mpr ⟨first.2,readable⟩⟩
    rw [List.map_cons, List.map_cons, first.1, values]

/-- The loop body on the first node ahead. -/
theorem Divided.visited {passed rest : List (Node (MonitoredFeature S))} {node : Node (MonitoredFeature S)}
    {features : List (MonitoredFeature S)}
    (divided : Divided spot bro record passed (node :: rest) features)
    (read : (bro.bro_record_get_named_val record node.value._name node.value._bro_type).1.isSome = true) :
    Divided spot bro record (passed ++ [⟨node.id, observe spot bro record node.value⟩]) rest features := by
  obtain ⟨before,after,rfl,had,await⟩ := divided
  obtain ⟨f,later,first,others,rfl⟩ := List.forall₂_cons_left_iff.mp await
  exact ⟨before ++ [f], later, by simp, List.rel_append had (.cons (first.observed read) .nil), others⟩

theorem visit_returns (spot : Spot S) (allocated : ∀ n, bro.event_allocated n = true) {f : MonitoredFeature S}
    (read : (bro.bro_record_get_named_val record f._name f._bro_type).1.isSome = true) (w : World) :
    (visit spot bro record none f w).1 = .ok () := by
  obtain ⟨bits,looked⟩ := Option.isSome_iff_exists.mp read
  rw [visit_eq]
  simp only [readValue, looked, Option.map_some, allocated, if_true]
  split <;> rfl

section Turns

variable {platform : Platform} {p q : Process S R} {d : Daemon S}

/-- The daemon takes the actions, every record to its end, and comes to stand beside the process. -/
def Follows (spot : Spot S) (bro : Broccoli R) (q : Process S R) (d : Daemon S)
    (actions : List (Daemon.Action R)) : Prop :=
  Related spot bro q (Runs.run (Daemon.next spot bro) d actions) ∧
  Runs.Along (Daemon.next spot bro) (Daemon.Serves spot bro) d actions

/-- What neither touches the list nor moves the loop. -/
theorem Related.kept (related : Related spot bro p d) (dsp : q.dsp = p.dsp)
    (loop : q.receiver.loop = p.receiver.loop) : Related spot bro q d := by
  cases related with
  | rest done same => exact .rest (by rw [loop]; exact done) (by rw [dsp]; exact same)
  | ahead stage split first divided =>
    exact .ahead (by rw [loop]; exact stage) (by rw [dsp]; exact split) first divided
  | passing stage split last divided =>
    exact .passing (by rw [loop]; exact stage) (by rw [dsp]; exact split) last divided

theorem Related.features_of_rest (related : Related spot bro p d) (rests : p.receiver.loop.pending = none) :
    p.dsp.features = d.dsp.features := by
  cases related with
  | rest done same => exact same
  | ahead stage split first divided =>
    rcases stage with test | body
    · rw [test] at rests; cases rests
    · rw [body] at rests; cases rests
  | passing stage split last divided => rw [stage] at rests; cases rests

/-- A reset that spares the loop's node takes effect on both sides. -/
theorem Related.reset (keeps : spot.KeepsConfig) (related : Related spot bro p d) {feature : String}
    {fault : Option Exn} (dsp : q.dsp = (p.dsp.reset spot fault feature).2)
    (loop : q.receiver.loop = p.receiver.loop)
    (spares : ∀ node, p.dsp.scan feature = some node → p.receiver.loop.iterator ≠ some node.id) :
    Related spot bro q (d.next spot bro (.reset feature fault)) := by
  cases related with
  | rest done same =>
    exact .rest (by rw [loop]; exact done) (by rw [dsp]; exact reset_same same fault feature)
  | @ahead record it passed awaiting stage split first divided =>
    obtain ⟨passed',awaiting',nodes,parts,front,_⟩ := divided.reset keeps split fault feature
    obtain ⟨node,head,rfl⟩ := Option.map_eq_some_iff.mp first
    have points : p.receiver.loop.iterator = some node.id := by rcases stage with h | h <;> rw [h] <;> rfl
    have stays := front node head (fun found => spares node found points)
    exact .ahead (by rw [loop]; exact stage) (by rw [dsp]; exact nodes) (by rw [stays]; rfl) parts
  | @passing record it passed awaiting stage split last divided =>
    obtain ⟨passed',awaiting',nodes,parts,_,back⟩ := divided.reset keeps split fault feature
    obtain ⟨node,tail,rfl⟩ := Option.map_eq_some_iff.mp last
    have points : p.receiver.loop.iterator = some node.id := by rw [stage]; rfl
    have stays := back node tail (fun found => spares node found points)
    exact .passing (by rw [loop]; exact stage) (by rw [dsp]; exact nodes) (by rw [stays]; rfl) parts

/-- In the middle of a record, or of the loop's end, no other record is taken. -/
theorem arrive_busy (spot : Spot S) (bro : Broccoli R) (platform : Platform) (running : p.ended = none)
    (busy : p.receiver.loop ≠ .idle) (record : R) :
    p.next spot bro platform (.arrive record) = p ∧ p.effective platform (.arrive record) = [] := by
  obtain ⟨⟨daemon,loop⟩,conn,ended⟩ := p
  cases running
  cases loop with
  | idle => exact absurd rfl busy
  | _ => exact ⟨rfl,rfl⟩

/-- A record that arrives finds every feature waiting, and is over at once where there is none. -/
theorem Related.arrive (allocated : ∀ n, bro.event_allocated n = true) (running : p.ended = none)
    (related : Related spot bro p d) (record : R) :
    Follows spot bro (p.next spot bro platform (.arrive record)) d (p.effective platform (.arrive record)) := by
  by_cases idle : p.receiver.loop = .idle
  · have same := related.features_of_rest (by rw [idle]; rfl)
    have loop : (p.next spot bro platform (.arrive record)).receiver.loop =
        .test record p.dsp._features.begin_ := by
      simp [Process.next,running,Receiver.arrive,idle,Process.dsp]
    have dsp : (p.next spot bro platform (.arrive record)).dsp = p.dsp := by
      simp [Process.next,running,Receiver.arrive,idle,Process.dsp]
    cases begins : p.dsp._features.begin_ with
    | none =>
      have empty : p.dsp.features = [] := by
        simpa [NodeList.begin_,Dispotcher.features,NodeList.values] using begins
      have takes : p.effective platform (.arrive record) = [.record record] := by
        simp [Process.effective,running,idle,begins]
      have returned : (callback spot bro record d).1 = .ok () :=
        callback_returns allocated (by rw [← same, empty]; exact List.forall_mem_nil _)
      rw [takes]
      refine ⟨.rest (by rw [loop, begins]; rfl) ?_, returned, trivial⟩
      rw [dsp, empty, Runs.run_cons, Runs.run_nil]
      exact (((callback_ok_features returned).trans (by rw [← same, empty]; rfl))).symm
    | some it =>
      have silent : p.effective platform (.arrive record) = [] := by
        simp [Process.effective,idle,begins]
      have divided : Divided spot bro record [] p.dsp._features.nodes d.dsp.features := by
        refine ⟨[], d.dsp.features, rfl, .nil, ?_⟩
        rw [← same]
        exact List.forall₂_map_right_iff.mpr (List.forall₂_same.mpr (fun node _ => awaits_self node))
      rw [silent]
      exact ⟨.ahead (.inl (by rw [loop, begins])) (by rw [dsp]; rfl) begins divided, trivial⟩
  · obtain ⟨still,silent⟩ := arrive_busy spot bro platform running idle record
    rw [still, silent]
    exact ⟨related,trivial⟩

theorem receiver_rest (spot : Spot S) (bro : Broccoli R) (platform : Platform) (running : p.ended = none)
    (done : p.receiver.loop.pending = none) :
    (p.next spot bro platform .receiver).dsp = p.dsp ∧
    (p.next spot bro platform .receiver).receiver.loop.pending = none ∧
    p.effective platform .receiver = [] := by
  obtain ⟨⟨daemon,loop⟩,conn,ended⟩ := p
  cases running
  cases loop with
  | idle => exact ⟨rfl,rfl,rfl⟩
  | test record it =>
    cases it with
    | none => exact ⟨rfl,rfl,rfl⟩
    | some it => cases done
  | body record it => cases done
  | increment record it => cases done

theorem Related.receiver (allocated : ∀ n, bro.event_allocated n = true) (running : p.ended = none)
    (related : Related spot bro p d) (reads : p.reads bro .receiver = true) :
    Follows spot bro (p.next spot bro platform .receiver) d (p.effective platform .receiver) := by
  have taken : (p.next spot bro platform .receiver).receiver = p.receiver.step spot bro := by
    simp [Process.next,running]
  cases related with
  | rest done same =>
    obtain ⟨dsp,still,silent⟩ := receiver_rest spot bro platform running done
    rw [silent]
    exact ⟨.rest still ((congrArg Dispotcher.features dsp).trans same), trivial⟩
  | @ahead record it passed awaiting stage split first divided =>
    obtain ⟨node,head,rfl⟩ := Option.map_eq_some_iff.mp first
    obtain ⟨rest,rfl⟩ := List.head?_eq_some_iff.mp head
    have stands : p.dsp._features.At (some node.id) passed (node :: rest) := ⟨split,rfl⟩
    rcases stage with test | body
    · have silent : p.effective platform .receiver = [] := by simp [Process.effective,test]
      have moved : p.receiver.step spot bro = { p.receiver with loop := .body record node.id } := by
        simp [Receiver.step,test]
      rw [silent]
      refine ⟨.ahead (.inr ?_) ?_ first divided, trivial⟩
      · rw [taken, moved]
      · rw [Process.dsp, taken, moved]
        exact split
    · have silent : p.effective platform .receiver = [] := by simp [Process.effective,body]
      have here : p.receiver.daemon.dsp._features.get? node.id = some node := stands.get?_eq
      have read : (bro.bro_record_get_named_val record node.value._name
          node.value._bro_type).1.isSome = true := by
        simpa [Process.reads,body,Process.dsp,here] using reads
      have moved : p.receiver.step spot bro =
          { daemon :=
              { p.receiver.daemon with
                dsp := ⟨p.dsp._features.update node.id (observe spot bro record node.value)⟩
                world := (visit spot bro record none node.value p.receiver.daemon.world).2.2 }
            loop := .increment record node.id } := by
        simp only [Receiver.step, body, here, visit_returns spot allocated read, visit_feature]
        rfl
      have loop : (p.next spot bro platform .receiver).receiver.loop = .increment record node.id := by
        rw [taken, moved]
      rw [silent]
      refine ⟨.passing loop ?_ ?_ (divided.visited read), trivial⟩
      · rw [Process.dsp, taken, moved, List.append_assoc]
        exact stands.update_nodes _
      · rw [List.getLast?_concat]
        rfl
  | @passing record it passed awaiting stage split last divided =>
    obtain ⟨node,tail,rfl⟩ := Option.map_eq_some_iff.mp last
    obtain ⟨front,rfl⟩ := List.getLast?_eq_some_iff.mp tail
    have stands : p.dsp._features.At (some node.id) front (node :: awaiting) := ⟨by rw [split]; simp, rfl⟩
    have here : p.receiver.daemon.dsp._features.get? node.id = some node := stands.get?_eq
    have follows : p.receiver.daemon.dsp._features.next node.id = awaiting.head?.map Node.id := stands.step.points
    have moved : p.receiver.step spot bro =
        { p.receiver with loop := .test record (awaiting.head?.map Node.id) } := by
      simp [Receiver.step,stage,here,follows]
    have dsp : (p.next spot bro platform .receiver).dsp = p.dsp := by rw [Process.dsp, taken, moved]; rfl
    cases awaiting with
    | nil =>
      have takes : p.effective platform .receiver = [.record record] := by
        simp [Process.effective,running,stage,Process.dsp,here,follows]
      obtain ⟨values,readable⟩ := divided.finished
      have returned : (callback spot bro record d).1 = .ok () := callback_returns allocated readable
      have observed : (Daemon.next spot bro d (.record record)).dsp.features =
          d.dsp.features.map (observe spot bro record) := callback_ok_features returned
      rw [takes]
      refine ⟨.rest (by rw [taken, moved]; rfl) ?_, returned, trivial⟩
      rw [dsp, Runs.run_cons, Runs.run_nil, observed, ← values, Dispotcher.features, NodeList.values, split,
        List.append_nil]
    | cons next rest =>
      have silent : p.effective platform .receiver = [] := by
        simp [Process.effective,stage,Process.dsp,follows]
      rw [silent]
      exact ⟨.ahead (.inl (by rw [taken, moved]; rfl)) (by rw [dsp]; exact split) rfl divided, trivial⟩

/-- A message takes effect as one reset, or it takes none and leaves the list as it is. -/
theorem bus_effective (spot : Spot S) (bro : Broccoli R) (platform : Platform) (running : p.ended = none)
    (msg : DBusMessage) :
    (∃ feature, Dbuspotcher.dispatch msg = some .Reset ∧ msg.feature = some feature ∧
      p.effective platform (.bus msg) = [.reset feature (platform.reset_fault p.conn.attempts)] ∧
      (p.next spot bro platform (.bus msg)).dsp =
        (p.dsp.reset spot (platform.reset_fault p.conn.attempts) feature).2) ∨
    (p.effective platform (.bus msg) = [] ∧ (p.next spot bro platform (.bus msg)).dsp = p.dsp) := by
  have shared := (next_bus spot bro platform running msg).1
  unfold Dbuspotcher.effect at shared
  split at shared
  · next feature resets named =>
    exact .inl ⟨feature, resets, named, by simp [Process.effective,running,resets,named], shared⟩
  · next other =>
    refine .inr ⟨?_, shared⟩
    unfold Process.effective
    split
    · rfl
    · dsimp only
      split
      · next feature resets named => exact absurd named (other feature resets)
      · rfl

theorem Related.bus (keeps : spot.KeepsConfig) (running : p.ended = none) (related : Related spot bro p d)
    {msg : DBusMessage} (spares : p.Spares (.bus msg)) :
    Follows spot bro (p.next spot bro platform (.bus msg)) d (p.effective platform (.bus msg)) := by
  have loop := (next_bus spot bro platform running msg).2
  obtain ⟨feature,resets,named,takes,dsp⟩ | ⟨silent,dsp⟩ := bus_effective spot bro platform running msg
  · rw [takes]
    exact ⟨related.reset keeps dsp loop (fun node found => spares running resets feature node named found),
      trivial, trivial⟩
  · rw [silent]
    exact ⟨related.kept dsp loop, trivial⟩

/-- One turn of the process is what takes effect with it, one action after the other. -/
theorem Related.turn (keeps : spot.KeepsConfig) (allocated : ∀ n, bro.event_allocated n = true)
    (related : Related spot bro p d) {turn : Turn R} (spares : p.Spares turn) (reads : p.reads bro turn = true) :
    Follows spot bro (p.next spot bro platform turn) d (p.effective platform turn) := by
  cases running : p.ended with
  | some ending =>
    have still : p.next spot bro platform turn = p := by simp [Process.next,running]
    have silent : p.effective platform turn = [] := by simp [Process.effective,running]
    rw [still, silent]
    exact ⟨related,trivial⟩
  | none =>
    cases turn with
    | arrive record => exact related.arrive allocated running record
    | receiver => exact related.receiver allocated running reads
    | bus msg => exact related.bus keeps running spares

/-- Every record that `callback` is called with takes effect once, and until then the loop holds it. -/
theorem record_balance (allocated : ∀ n, bro.event_allocated n = true) {turn : Turn R}
    (reads : p.reads bro turn = true) :
    (p.effective platform turn).filterMap Daemon.Action.record? ++
        (p.next spot bro platform turn).receiver.loop.pending.toList =
      p.receiver.loop.pending.toList ++ p.received turn := by
  cases running : p.ended with
  | some ending => simp [Process.next,Process.effective,Process.received,running]
  | none =>
    cases turn with
    | arrive record =>
      by_cases idle : p.receiver.loop = .idle
      · cases begins : p.receiver.daemon.dsp._features.begin_ <;>
          simp [Process.next,Process.effective,Process.received,Process.dsp,Receiver.arrive,running,idle,
            begins,Loop.pending,Daemon.Action.record?]
      · obtain ⟨still,silent⟩ := arrive_busy spot bro platform running idle record
        rw [still, silent]
        cases loop : p.receiver.loop <;> simp_all [Process.received]
    | receiver =>
      have received : p.received .receiver = [] := by simp [Process.received]
      have taken : (p.next spot bro platform .receiver).receiver = p.receiver.step spot bro := by
        simp [Process.next,running]
      rw [received, List.append_nil, taken]
      cases loop : p.receiver.loop with
      | idle => simp [Process.effective,Receiver.step,loop]
      | test record it =>
        cases it <;> simp [Process.effective,Receiver.step,loop,Loop.pending]
      | body record it =>
        cases here : p.receiver.daemon.dsp._features.get? it with
        | none => simp [Process.effective,Receiver.step,loop,here]
        | some node =>
          have read : (bro.bro_record_get_named_val record node.value._name
              node.value._bro_type).1.isSome = true := by
            simpa [Process.reads,loop,Process.dsp,here] using reads
          have returns := visit_returns spot allocated read p.receiver.daemon.world
          simp [Process.effective,Receiver.step,loop,here,returns,Loop.pending]
      | increment record it =>
        cases here : p.receiver.daemon.dsp._features.get? it <;>
          cases follows : p.receiver.daemon.dsp._features.next it <;>
          simp [Process.effective,Process.dsp,Receiver.step,running,loop,here,follows,Loop.pending,
            Daemon.Action.record?]
    | bus msg =>
      have resets : (p.effective platform (.bus msg)).filterMap Daemon.Action.record? = [] := by
        unfold Process.effective
        split
        · rfl
        · dsimp only
          split <;> rfl
      rw [(next_bus spot bro platform running msg).2, resets]
      simp [Process.received]

end Turns

end Serial

open Process in
/-- At every moment of a run of the two threads, the daemon that has taken the actions of the
serial order stands beside the process. -/
theorem serial_follows {spot : Spot S} (keeps : spot.KeepsConfig) {bro : Broccoli R}
    (allocated : ∀ n, bro.event_allocated n = true) {platform : Platform} {d : Daemon S} {turns : List (Turn R)}
    (undisturbed : Runs.Along (next spot bro platform) (fun p turn => p.Spares turn ∧ p.reads bro turn)
      (start d) turns) :
    Serial.Follows spot bro (run spot bro platform (start d) turns) d
      (serial spot bro platform (start d) turns) :=
  Runs.simulation_output (next spot bro platform) (effective platform) (Daemon.next spot bro) _ _
    (Serial.Related spot bro)
    (fun _ _ _ related undisturbed => related.turn keeps allocated undisturbed.1 undisturbed.2)
    undisturbed (.rest rfl rfl)

open Process in
/-- Every interleaving has its serial order. Where no Reset takes the node that the loop points
at and every lookup and allocation succeeds: the features of two threads at rest are those
of one thread that handles whole records and whole resets, each record once and in order. -/
theorem interleaving_is_serial {spot : Spot S} (keeps : spot.KeepsConfig) {bro : Broccoli R}
    (allocated : ∀ n, bro.event_allocated n = true) (platform : Platform) (d : Daemon S)
    (turns : List (Turn R))
    (undisturbed : Runs.Along (next spot bro platform) (fun p turn => p.Spares turn ∧ p.reads bro turn)
      (start d) turns)
    (rests : (run spot bro platform (start d) turns).receiver.loop.pending = none) :
    (run spot bro platform (start d) turns).dsp.features =
        (Daemon.run spot bro d (serial spot bro platform (start d) turns)).dsp.features ∧
      Runs.Along (Daemon.next spot bro) (Daemon.Serves spot bro) d
        (serial spot bro platform (start d) turns) ∧
      (serial spot bro platform (start d) turns).filterMap Daemon.Action.record? =
        Runs.output (next spot bro platform) received (start d) turns := by
  obtain ⟨related,served⟩ := serial_follows keeps allocated undisturbed
  refine ⟨related.features_of_rest rests, served, ?_⟩
  have balance := Runs.output_balance (next spot bro platform)
    (fun p turn => (effective platform p turn).filterMap Daemon.Action.record?) received
    (fun p : Process S R => p.receiver.loop.pending.toList) _
    (fun p turn undisturbed => Serial.record_balance allocated undisturbed.2) undisturbed
  rw [run] at rests
  rw [rests] at balance
  rw [serial, Runs.filterMap_output]
  simpa [start,Loop.pending] using balance

/-- `mem` is reset when the loop has passed it: as if it had been reset before the record came. -/
theorem reset_behind_comes_first :
    let record : List (String × BroVal) :=
      [("mem", ⟨BRO_TYPE_DOUBLE, 0x4059000000000000⟩), ("swap", ⟨BRO_TYPE_DOUBLE, 0x4059000000000000⟩)]
    let bro := Broccoli.ofFields (fun _ => true)
    let reset := DBusMessage.call "bro.spot.Spot" "Reset" [.string "mem"]
    (Process.run (.returning 3) bro .calm (.start .twoFeatures)
      [.arrive record, .receiver, .receiver, .receiver, .bus reset, .receiver, .receiver, .receiver,
        .receiver, .receiver, .receiver]).dsp.features =
      (Daemon.run (.returning 3) bro .twoFeatures [.reset "mem" none, .record record]).dsp.features := by
  intro record bro reset
  have order : Process.serial (.returning 3) bro .calm (.start .twoFeatures)
      [.arrive record, .receiver, .receiver, .receiver, .bus reset, .receiver, .receiver, .receiver,
        .receiver, .receiver, .receiver] = [.reset "mem" none, .record record] := by decide +kernel
  rw [← order]
  exact (interleaving_is_serial (Spot.returning_keepsConfig 3) (fun _ => rfl) .calm .twoFeatures
    [.arrive record, .receiver, .receiver, .receiver, .bus reset, .receiver, .receiver, .receiver,
        .receiver, .receiver, .receiver] (by decide +kernel) (by decide +kernel)).1

end BroSpotd
