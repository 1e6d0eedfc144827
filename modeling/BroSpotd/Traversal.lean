import BroSpotd.Receiver

/-! How often a record reaches each feature while resets arrive. The loop goes one feature
per move, and whole resets come between its moves. A reset puts its feature at the tail,
so a feature that the loop has passed comes ahead of it again. -/
namespace BroSpotd

variable {S R : Type}

inductive Move where
  | visit
  | reset (feature : String)
  deriving DecidableEq, Repr

namespace Receiver

/-- A visit is the three steps of the loop on the node that it has come to. -/
def move (spot : Spot S) (bro : Broccoli R) (r : Receiver S R) : Move → Receiver S R
  | .visit =>
    match r.loop with
    | .test _ (some _) => step spot bro (step spot bro (step spot bro r))
    | _ => r
  | .reset feature => { r with daemon := { r.daemon with dsp := (r.daemon.dsp.reset spot none feature).2 } }

/-- The name of the feature that a move visits. -/
def visited (r : Receiver S R) : Move → List String
  | .visit =>
    match r.loop with
    | .test _ (some it) => ((r.daemon.dsp._features.get? it).map (fun node => node.value._name)).toList
    | _ => []
  | .reset _ => []

/-- The names that the loop visits over a run of moves. -/
def visits (spot : Spot S) (bro : Broccoli R) (r : Receiver S R) (moves : List Move) : List String :=
  Runs.output (move spot bro) visited r moves

/-- The reset of the feature that the loop points at. -/
def TakesCurrent (r : Receiver S R) : Move → Prop
  | .visit => False
  | .reset feature => ∃ node, r.daemon.dsp.scan feature = some node ∧ r.loop.iterator = some node.id

/-- The reset of a feature that the loop has passed, before the loop has come to the end. -/
def Rewinds (r : Receiver S R) : Move → Prop
  | .visit => False
  | .reset feature => ∃ it node, r.loop.iterator = some it ∧ r.daemon.dsp.scan feature = some node ∧
      node ∈ r.daemon.dsp._features.behind (some it)

/-- The names of nodes, in order. -/
def namesOf (nodes : List (Node (MonitoredFeature S))) : List String :=
  nodes.map (fun node => node.value._name)

theorem move_idle (spot : Spot S) (bro : Broccoli R) {r : Receiver S R} (idle : r.loop = .idle) (m : Move) :
    (move spot bro r m).loop = .idle := by
  cases m with
  | visit => simp [move,idle]
  | reset feature => exact idle

theorem run_idle (spot : Spot S) (bro : Broccoli R) {r : Receiver S R} (idle : r.loop = .idle)
    (moves : List Move) : (Runs.run (move spot bro) r moves).loop = .idle :=
  Runs.invariant _ (fun r : Receiver S R => r.loop = .idle) (fun _ m idle => move_idle spot bro idle m)
    r moves idle

/-- What is left to visit after a visit: the nodes ahead but the first. -/
theorem visit_ahead (spot : Spot S) (bro : Broccoli R) {r : Receiver S R} {record : R} {it : Option Nat}
    (testing : r.loop = .test record it) {behind ahead : List (Node (MonitoredFeature S))}
    (stands : r.daemon.dsp._features.At it behind ahead) :
    (move spot bro r .visit).loop = .idle ∨
    ∃ it' behind' ahead', (move spot bro r .visit).loop = .test record it' ∧
      (move spot bro r .visit).daemon.dsp._features.At it' behind' ahead' ∧
      visited r .visit ++ namesOf ahead' = namesOf ahead := by
  cases it with
  | none =>
    have still : move spot bro r .visit = r := by simp [move,testing]
    exact .inr ⟨none, behind, ahead, by rw [still, testing], by rw [still]; exact stands,
      by simp [visited,testing]⟩
  | some id =>
    obtain ⟨node,rest,rfl,_⟩ := stands.designated
    have lap := three_steps spot bro testing stands
    have moved : move spot bro r .visit = step spot bro (step spot bro (step spot bro r)) := by
      simp [move,testing]
    rw [moved, lap]
    cases (visit spot bro record none node.value r.daemon.world).1 with
    | error e => exact .inl rfl
    | ok =>
      refine .inr ⟨_, _, _, rfl, (stands.update _).step, ?_⟩
      simp [visited,testing,stands.get?_eq,namesOf]

/-- What is left to visit after a reset that spares the current node: the same names, and
the feature's once more where the loop had passed it. -/
theorem reset_ahead (spot : Spot S) {r : Receiver S R} {it : Option Nat} (points : r.loop.iterator = it)
    {behind ahead : List (Node (MonitoredFeature S))} (stands : r.daemon.dsp._features.At it behind ahead)
    {feature : String} (spares : ¬ TakesCurrent r (.reset feature)) :
    ∃ behind' ahead' again, (r.daemon.dsp.reset spot none feature).2._features.At it behind' ahead' ∧
      (namesOf ahead').Perm (namesOf ahead ++ again) ∧ (again = [] ↔ ¬ Rewinds r (.reset feature)) := by
  cases found : r.daemon.dsp.scan feature with
  | none =>
    refine ⟨behind, ahead, [], ?_, by simp, by simp [Rewinds,found]⟩
    simpa [Dispotcher.reset,found] using stands
  | some x =>
    have standing := (NodeList.find?_mem found).1
    have named : x.value._name = feature := Dispotcher.scan_name found
    cases it with
    | none =>
      obtain rfl := stands.at_end
      refine ⟨_, [], [], NodeList.at_end _, .refl _, ?_⟩
      simp [Rewinds,points]
    | some id =>
      obtain ⟨node,rest,rfl,here⟩ := stands.designated
      have other : x.id ≠ id := by
        rintro rfl
        exact spares ⟨x,found,points⟩
      rw [stands.split, List.mem_append, List.mem_cons] at standing
      have passed : Rewinds r (.reset feature) ↔ x ∈ behind := by
        simp [Rewinds,points,found,stands.behind_eq]
      rcases standing with before | rfl | after
      · have moved := (stands.erase_behind before).emplace_back
          (MonitoredFeature.new spot feature x.value._bro_type (x.value.config spot))
        refine ⟨_, _, [feature], by simpa [Dispotcher.reset,found] using moved, ?_, by simp [passed,before]⟩
        simp [namesOf,MonitoredFeature.new]
      · exact absurd here other
      · have moved := (stands.erase_ahead after).emplace_back
          (MonitoredFeature.new spot feature x.value._bro_type (x.value.config spot))
        have ahead_only : x ∉ behind :=
          fun before => stands.apart before (List.mem_cons_of_mem _ after) rfl
        refine ⟨_, _, [], by simpa [Dispotcher.reset,found] using moved, ?_, by simp [passed,ahead_only]⟩
        have distinct := stands.distinct_ahead
        rw [List.map_cons, List.nodup_cons] at distinct
        have same := (NodeList.perm_eraseP_id distinct.2 after).map (fun node => node.value._name)
        rw [List.map_cons, named] at same
        simp only [namesOf, MonitoredFeature.new, List.map_append, List.map_cons, List.map_nil,
          List.append_nil]
        exact ((List.perm_append_singleton _ _).trans same).cons _

/-- Over a run that comes to the end: what was ahead is visited, and once more for every
rewinding reset. -/
theorem visits_ahead (spot : Spot S) (bro : Broccoli R) {record : R} (moves : List Move)
    {r : Receiver S R} {it : Option Nat} (testing : r.loop = .test record it)
    {behind ahead : List (Node (MonitoredFeature S))} (stands : r.daemon.dsp._features.At it behind ahead)
    (spared : Runs.Along (move spot bro) (fun r m => ¬ TakesCurrent r m) r moves)
    (ended : (Runs.run (move spot bro) r moves).loop = .test record none) :
    ∃ again, (visits spot bro r moves).Perm (namesOf ahead ++ again) ∧
      (again = [] ↔ Runs.Along (move spot bro) (fun r m => ¬ Rewinds r m) r moves) := by
  induction moves generalizing r it behind ahead with
  | nil =>
    obtain rfl : it = none := by
      have same := testing.symm.trans ended
      cases same
      rfl
    obtain rfl := stands.at_end
    exact ⟨[], .refl _, by simp⟩
  | cons m rest ih =>
    obtain ⟨spares,later⟩ := spared
    rw [Runs.run_cons] at ended
    cases m with
    | visit =>
      rcases visit_ahead spot bro testing stands with idle | ⟨it',behind',ahead',testing',stands',names⟩
      · rw [run_idle spot bro idle] at ended
        cases ended
      · obtain ⟨again,seen,rewound⟩ := ih testing' stands' later ended
        refine ⟨again, ?_, by simp [rewound,Rewinds]⟩
        rw [← names, List.append_assoc]
        exact seen.append_left _
    | reset feature =>
      have points : r.loop.iterator = it := by rw [testing]; rfl
      obtain ⟨behind',ahead',back,stands',names,once⟩ := reset_ahead spot points stands spares
      obtain ⟨again,seen,rewound⟩ := ih (r := move spot bro r (.reset feature)) testing stands' later ended
      refine ⟨back ++ again, ?_, by rw [List.append_eq_nil_iff, once, rewound, Runs.along_cons]⟩
      rw [← List.append_assoc]
      exact seen.trans (names.append_right _)

end Receiver

open Receiver in
/-- One record, any interleaving with resets that spare the current feature, up to the end of
the loop: every feature is visited exactly once, `size()` visits in all, exactly when no
reset takes a feature that the loop has passed. -/
theorem visited_once_iff_no_rewind (spot : Spot S) (bro : Broccoli R) (d : Daemon S)
    (distinct : d.dsp.names.Nodup) (record : R) (moves : List Move)
    (spared : Runs.Along (move spot bro) (fun r m => ¬ TakesCurrent r m) (arrive record ⟨d,.idle⟩) moves)
    (ended : (Runs.run (move spot bro) (arrive record ⟨d,.idle⟩) moves).loop = .test record none) :
    ((∀ f ∈ d.dsp.names, (visits spot bro (arrive record ⟨d,.idle⟩) moves).count f = 1) ∧
      (visits spot bro (arrive record ⟨d,.idle⟩) moves).length = d.dsp.size) ↔
    Runs.Along (move spot bro) (fun r m => ¬ Rewinds r m) (arrive record ⟨d,.idle⟩) moves := by
  obtain ⟨again,seen,rewound⟩ :=
    visits_ahead spot bro moves (r := arrive record ⟨d,.idle⟩) rfl d.dsp._features.at_begin spared ended
  have names : namesOf d.dsp._features.nodes = d.dsp.names := by
    simp [namesOf,Dispotcher.names,Dispotcher.features,NodeList.values]
  have size : d.dsp.names.length = d.dsp.size := by simp [← names,namesOf,Dispotcher.size]
  rw [names] at seen
  rw [← rewound]
  constructor
  · rintro ⟨_,all⟩
    have lengths := seen.length_eq
    rw [all, List.length_append, size] at lengths
    exact List.eq_nil_of_length_eq_zero (by omega)
  · rintro rfl
    rw [List.append_nil] at seen
    refine ⟨fun f monitored => ?_, seen.length_eq.trans size⟩
    rw [seen.count_eq]
    exact List.count_eq_one_of_mem distinct monitored

open Receiver in
theorem reset_ahead_visits_once :
    let record : List (String × BroVal) :=
      [("mem", ⟨BRO_TYPE_DOUBLE, 0x4059000000000000⟩), ("swap", ⟨BRO_TYPE_DOUBLE, 0x4059000000000000⟩)]
    (visits (.returning 3) (Broccoli.ofFields (fun _ => true)) (arrive record ⟨.twoFeatures,.idle⟩)
      [.reset "swap", .visit, .visit]).length = 2 := by
  refine ((visited_once_iff_no_rewind (.returning 3) (Broccoli.ofFields (fun _ => true)) .twoFeatures
    (by decide)
    [("mem", ⟨BRO_TYPE_DOUBLE, 0x4059000000000000⟩), ("swap", ⟨BRO_TYPE_DOUBLE, 0x4059000000000000⟩)]
    [.reset "swap", .visit, .visit] ⟨?_, id, id, trivial⟩ rfl).mpr ⟨?_, id, id, trivial⟩).2
  · rintro ⟨node,found,points⟩
    have ids := congrArg (Option.map Node.id) found
    rw [Option.map_some, ← points] at ids
    revert ids
    decide
  · rintro ⟨it,node,points,_,passed⟩
    cases points
    exact absurd (show node ∈ [] from passed) List.not_mem_nil

open Receiver in
/-- `mem` is reset after the loop has passed it: it gets the record a second time. -/
theorem reset_behind_visits_twice :
    let record : List (String × BroVal) :=
      [("mem", ⟨BRO_TYPE_DOUBLE, 0x4059000000000000⟩), ("swap", ⟨BRO_TYPE_DOUBLE, 0x4059000000000000⟩)]
    let bro := Broccoli.ofFields (fun _ => true)
    let start := arrive record ⟨.twoFeatures,.idle⟩
    let moves := [Move.visit, .reset "mem", .visit, .visit]
    Runs.Along (move (.returning 3) bro) (fun r m => ¬ TakesCurrent r m) start moves ∧
    (Runs.run (move (.returning 3) bro) start moves).loop = .test record none ∧
    visits (.returning 3) bro start moves = ["mem", "swap", "mem"] := by
  refine ⟨⟨id, ?_, id, id, trivial⟩, rfl, by decide⟩
  rintro ⟨node,found,points⟩
  have ids := congrArg (Option.map Node.id) found
  rw [Option.map_some, ← points] at ids
  revert ids
  decide

end BroSpotd
