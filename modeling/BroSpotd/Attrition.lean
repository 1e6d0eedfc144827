import BroSpotd.Roster

/-! Runs in which anything may fail. A callback that is cut short loses no feature, and a reset
loses its own where the replacement is not built. What is monitored in the end is what was
loaded without the names of failed resets, each with its own config. -/
namespace BroSpotd

variable {S R : Type}

/-- A reset of the feature whose replacement is not built. -/
def Daemon.Action.fails (name : String) : Daemon.Action R → Bool
  | .reset feature (some _) => name = feature
  | _ => false

/-- No reset of the entry's feature fails. -/
def Entry.survives (actions : List (Daemon.Action R)) (e : Entry) : Bool :=
  !actions.any (Daemon.Action.fails e.name)

def Entry.profile (e : Entry) : String × SpotConfig := (e.name,e.config)

/-- Profiles of some entries carry their names. -/
theorem names_of_profiles {spot : Spot S} {dsp : Dispotcher S} {entries : List Entry}
    (perm : (dsp.profiles spot).Perm (entries.map Entry.profile)) :
    dsp.names.Perm (entries.map Entry.name) := by
  have names := perm.map Prod.fst
  rw [← names_profiles, List.map_map] at names
  exact names

theorem survives_cons (a : Daemon.Action R) (rest : List (Daemon.Action R)) (e : Entry) :
    e.survives (a :: rest) = (e.survives rest && !a.fails e.name) := by
  simp [Entry.survives, Bool.and_comm]

/-- A failed reset takes the feature of that name out, if there is one. -/
theorem failed_reset_features (spot : Spot S) (feature : String) (e : Exn) (dsp : Dispotcher S) :
    (dsp.reset spot (some e) feature).2.features = dsp.features.eraseP (fun f => f._name = feature) := by
  cases found : dsp.lookup feature with
  | none =>
    have others := (Keyed.find_eq_none_iff MonitoredFeature._name feature dsp.features).mp found
    have untouched : dsp.features.eraseP (fun f => f._name = feature) = dsp.features := by
      apply List.eraseP_of_forall_not
      intro f member same
      exact others (List.mem_map.mpr ⟨f, member, of_decide_eq_true same⟩)
    simp only [Dispotcher.reset_unknown found, untouched]
  | some f => exact (Dispotcher.reset_fault found spot e).2

/-- The name of an entry that did not survive is unknown. -/
theorem lost_of_profiles {spot : Spot S} {dsp : Dispotcher S} {entries : List Entry} {actions : List (Daemon.Action R)}
    (left : (dsp.profiles spot).Perm ((entries.filter (fun e => e.survives actions)).map Entry.profile)) {e : Entry}
    (lost : e.survives actions = false) : dsp.lookup e.name = none := by
  apply (Keyed.find_eq_none_iff MonitoredFeature._name e.name dsp.features).mpr
  intro monitored
  obtain ⟨other,listed,same⟩ := List.mem_map.mp ((names_of_profiles left).mem_iff.mp monitored)
  obtain ⟨_,survives⟩ := List.mem_filter.mp listed
  have alike : other.survives actions = e.survives actions := by simp only [Entry.survives, same]
  rw [alike, lost] at survives
  cases survives

section Kept

variable {spot : Spot S} (keeps : spot.KeepsConfig)
include keeps

/-- One action leaves the profiles that survive it. -/
theorem next_survivors (bro : Broccoli R) {d : Daemon S} {entries : List Entry}
    (distinct : (entries.map Entry.name).Nodup)
    (perm : (d.dsp.profiles spot).Perm (entries.map Entry.profile)) (a : Daemon.Action R) :
    ((d.next spot bro a).dsp.profiles spot).Perm
      ((entries.filter (fun e => !a.fails e.name)).map Entry.profile) := by
  cases a with
  | record record =>
    have same := callback_profiles keeps bro record d
    simp only [Daemon.Action.fails, Bool.not_false, List.filter_true]
    exact same ▸ perm
  | reset feature fault =>
    cases fault with
    | none =>
      simp only [Daemon.Action.fails, Bool.not_false, List.filter_true]
      exact (reset_profiles keeps feature d.dsp).trans perm
    | some e =>
      have names : d.dsp.names.Perm (entries.map Entry.name) := names_of_profiles perm
      have left := Keyed.eraseP_eq_filter MonitoredFeature._name (names.nodup_iff.mpr distinct) feature
      have kept : ((d.next spot bro (.reset feature (some e))).dsp.profiles spot) =
          (d.dsp.profiles spot).filter (fun p => p.1 ≠ feature) := by
        simp only [Daemon.next, Daemon.step, Dispotcher.profiles, failed_reset_features, left, List.filter_map]
        rfl
      let failed : Daemon.Action R := .reset feature (some e)
      have those : (entries.filter (fun e => !failed.fails e.name)).map Entry.profile =
          (entries.map Entry.profile).filter (fun p => p.1 ≠ feature) := by
        simp only [List.filter_map, failed, Daemon.Action.fails, Function.comp_def, ne_eq, decide_not]
        rfl
      rw [kept, those]
      exact perm.filter _

/-- What a whole run leaves of some profiles. -/
theorem run_survivors (bro : Broccoli R) (actions : List (Daemon.Action R)) {d : Daemon S}
    {entries : List Entry} (distinct : (entries.map Entry.name).Nodup)
    (perm : (d.dsp.profiles spot).Perm (entries.map Entry.profile)) :
    ((d.run spot bro actions).dsp.profiles spot).Perm
      ((entries.filter (fun e => e.survives actions)).map Entry.profile) := by
  induction actions generalizing d entries with
  | nil => simpa [Entry.survives,Daemon.run] using perm
  | cons a rest ih =>
    have one := next_survivors keeps bro distinct perm a
    have fewer : ((entries.filter (fun e => !a.fails e.name)).map Entry.name).Nodup :=
      distinct.sublist (List.filter_sublist.map Entry.name)
    have all := ih fewer one
    simp only [List.filter_filter, ← survives_cons] at all
    exact all

end Kept

/-- In every run, whatever is raised in its callbacks and resets: what is monitored in the end
are the loaded features without those of failed resets, each with the config loaded for it,
and the name of a lost one is unknown from then on. -/
theorem only_failed_resets_lose (spot : Spot S) (keeps : spot.KeepsConfig) (bro : Broccoli R)
    (entries : List Entry) (distinct : (entries.map Entry.name).Nodup) (actions : List (Daemon.Action R)) :
    let d := Daemon.run spot bro (.start spot entries) actions
    d.dsp.names.Perm ((entries.filter (fun e => e.survives actions)).map Entry.name) ∧
    ∀ e ∈ entries, d.dsp.config spot e.name =
      if e.survives actions then .ok e.config else .error (Dispotcher.unknown e.name) := by
  intro d
  have loaded : ((Daemon.start spot entries).dsp.profiles spot) = entries.map Entry.profile := by
    simp [Daemon.start,Dispotcher.profiles,Entry.build,MonitoredFeature.profile,MonitoredFeature.new,
      MonitoredFeature.config,keeps.new,Entry.profile]
  have left := run_survivors keeps bro actions distinct (List.Perm.of_eq loaded)
  have names := names_of_profiles left
  have fewer : ((entries.filter (fun e => e.survives actions)).map Entry.name).Nodup :=
    distinct.sublist (List.filter_sublist.map Entry.name)
  refine ⟨names, fun e member => ?_⟩
  cases stays : e.survives actions with
  | true =>
    exact config_of_profiles spot left fewer (List.mem_filter.mpr ⟨member,stays⟩)
  | false =>
    have gone : d.dsp.lookup e.name = none := lost_of_profiles left stays
    simp [Dispotcher.config_eq,gone]

/-- A second Reset of `mem` does not bring it back. -/
theorem mem_lost_for_good :
    let entries : List Entry := [⟨"mem", BRO_TYPE_DOUBLE, .shipped⟩, ⟨"swap", BRO_TYPE_DOUBLE, .shipped⟩]
    let actions : List (Daemon.Action (List (String × BroVal))) :=
      [.reset "mem" (some .bad_alloc), .reset "swap" none, .reset "mem" none]
    let d := Daemon.run (.returning 3) (Broccoli.ofFields (fun _ => true)) (.start (.returning 3) entries) actions
    d.dsp.names.Perm ["swap"] ∧
    d.dsp.config (.returning 3) "mem" = .error (Dispotcher.unknown "mem") := by
  intro entries actions d
  have left := only_failed_resets_lose (.returning 3) (Spot.returning_keepsConfig 3)
    (Broccoli.ofFields (fun _ => true)) entries (by decide) actions
  exact ⟨left.1, left.2 ⟨"mem", BRO_TYPE_DOUBLE, .shipped⟩ (List.mem_cons_self ..)⟩

end BroSpotd
