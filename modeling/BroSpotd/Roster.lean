import BroSpotd.Config

/-! The monitored features over whole runs. A feature's profile is its name and its config;
a callback leaves every profile where it is, even when it raises, and a reset moves one to
the tail. The profiles are therefore the loaded ones in some order, whatever is called. -/
namespace BroSpotd

variable {S R : Type}

/-- The calls on a running daemon, each carried to its end before the next. A reset here
finds the memory it needs; `AllOrNothing` is about one that does not. -/
inductive Operation (R : Type) where
  | callback (record : R)
  | names
  | status (feature : String)
  | config (feature : String)
  | reset (feature : String)

namespace Operation

def next (spot : Spot S) (bro : Broccoli R) (d : Daemon S) : Operation R → Daemon S
  | .callback record => d.next spot bro (.record record)
  | .reset feature => d.next spot bro (.reset feature none)
  | .names | .status _ | .config _ => d

def run (spot : Spot S) (bro : Broccoli R) (d : Daemon S) (operations : List (Operation R)) : Daemon S :=
  Runs.run (next spot bro) d operations

end Operation

def MonitoredFeature.profile (spot : Spot S) (f : MonitoredFeature S) : String × SpotConfig :=
  (f._name, f.config spot)

def Dispotcher.profiles (spot : Spot S) (dsp : Dispotcher S) : List (String × SpotConfig) :=
  dsp.features.map (MonitoredFeature.profile spot)

theorem names_profiles (spot : Spot S) (dsp : Dispotcher S) :
    dsp.names = (dsp.profiles spot).map Prod.fst := by
  simp [Dispotcher.names,Dispotcher.profiles,MonitoredFeature.profile,Function.comp_def]

section Kept

variable {spot : Spot S} (keeps : spot.KeepsConfig)
include keeps

theorem observe_profile (bro : Broccoli R) (record : R) (f : MonitoredFeature S) :
    (observe spot bro record f).profile spot = f.profile spot := by
  simp only [MonitoredFeature.profile, MonitoredFeature.config, observe]
  cases positiveValue bro record f with
  | none => rfl
  | some d => simp [keeps.step]

/-- A callback, whether it returns or raises, moves and changes no profile. -/
theorem callback_profiles (bro : Broccoli R) (record : R) (d : Daemon S) :
    (callback spot bro record d).2.dsp.profiles spot = d.dsp.profiles spot := by
  unfold Dispotcher.profiles
  rw [callback_features]
  exact sweep_view _ spot bro record (observe_profile keeps bro record) _ _

theorem replacement_profile (f : MonitoredFeature S) :
    (Dispotcher.replacement spot f).profile spot = f.profile spot := by
  simp [Dispotcher.replacement,MonitoredFeature.new,MonitoredFeature.profile,MonitoredFeature.config,keeps.new]

theorem reset_profiles (feature : String) (dsp : Dispotcher S) :
    ((dsp.reset spot none feature).2.profiles spot).Perm (dsp.profiles spot) :=
  Dispotcher.reset_view _ spot (replacement_profile keeps) feature dsp

theorem next_profiles (bro : Broccoli R) (d : Daemon S) (operation : Operation R) :
    ((operation.next spot bro d).dsp.profiles spot).Perm (d.dsp.profiles spot) := by
  cases operation with
  | callback record => exact (callback_profiles keeps bro record d) ▸ List.Perm.refl _
  | reset feature => exact reset_profiles keeps feature d.dsp
  | _ => exact List.Perm.refl _

theorem run_profiles (bro : Broccoli R) (d : Daemon S) (operations : List (Operation R)) :
    ((Operation.run spot bro d operations).dsp.profiles spot).Perm (d.dsp.profiles spot) := by
  apply Runs.invariant (Operation.next spot bro) (fun later => (later.dsp.profiles spot).Perm (d.dsp.profiles spot))
  · intro later operation kept
    exact (next_profiles keeps bro later operation).trans kept
  · exact List.Perm.refl _

/-- The constructor's list has the profiles of the entries. -/
theorem load_profiles (p : IniParser) (ini : Dictionary) {dsp : Dispotcher S}
    (built : Dispotcher.load p spot (some ini) = .ok dsp) :
    dsp.profiles spot = (loadEntries p ini).map (fun e => (e.name,e.config)) := by
  obtain rfl := Except.ok.inj built
  simp [Dispotcher.profiles,Entry.build,MonitoredFeature.profile,MonitoredFeature.new,
    MonitoredFeature.config,keeps.new]

end Kept

/-- With the profiles of some entries, each name leads to the config of its own entry. -/
theorem config_of_profiles (spot : Spot S) {dsp : Dispotcher S} {entries : List Entry}
    (perm : (dsp.profiles spot).Perm (entries.map (fun e => (e.name,e.config))))
    (distinct : (entries.map Entry.name).Nodup) {e : Entry} (member : e ∈ entries) :
    dsp.config spot e.name = .ok e.config := by
  have listed : (e.name,e.config) ∈ dsp.profiles spot :=
    perm.mem_iff.mpr (List.mem_map_of_mem (f := fun e => (e.name,e.config)) member)
  have present : e.name ∈ dsp.names := names_profiles spot dsp ▸ List.mem_map_of_mem (f := Prod.fst) listed
  obtain ⟨f,found⟩ := Option.isSome_iff_exists.mp ((dsp.lookup_isSome_iff e.name).mpr present)
  have profiled : f.profile spot ∈ entries.map (fun e => (e.name,e.config)) :=
    perm.mem_iff.mp (List.mem_map_of_mem (Keyed.find_mem _ found))
  obtain ⟨other,among,same⟩ := List.mem_map.mp profiled
  obtain ⟨named,config⟩ := Prod.mk.inj same
  have one : other = e :=
    List.inj_on_of_nodup_map distinct among member (named.trans (Keyed.find_key _ found))
  subst one
  simp [Dispotcher.config_eq,found,config]

/-- What a caller sees of a dispatcher that was loaded with these entries. -/
structure Undrifted (spot : Spot S) (loaded : List Entry) (dsp : Dispotcher S) : Prop where
  distinct : dsp.names.Nodup
  names : dsp.names.Perm (loaded.map Entry.name)
  status : ∀ feature, (∃ status, dsp.status spot feature = .ok status) ↔ feature ∈ dsp.names
  config : ∀ feature, (∃ config, dsp.config spot feature = .ok config) ↔ feature ∈ dsp.names
  reset : ∀ feature, (dsp.reset spot none feature).1 = .ok () ↔ feature ∈ dsp.names
  loaded_config : ∀ e ∈ loaded, dsp.config spot e.name = .ok e.config
  unknown : ∀ feature, feature ∉ dsp.names →
    dsp.status spot feature = .error (Dispotcher.unknown feature) ∧
    dsp.config spot feature = .error (Dispotcher.unknown feature) ∧
    dsp.reset spot none feature = (.error (Dispotcher.unknown feature), dsp)

/-- The profiles of distinct entries, in whatever order, are all that a caller can tell. -/
theorem undrifted_of_profiles (spot : Spot S) {dsp : Dispotcher S} {entries : List Entry}
    (perm : (dsp.profiles spot).Perm (entries.map (fun e => (e.name,e.config))))
    (distinct : (entries.map Entry.name).Nodup) : Undrifted spot entries dsp := by
  have names : dsp.names.Perm (entries.map Entry.name) := by
    have projected := perm.map Prod.fst
    simpa [names_profiles spot,Function.comp_def] using projected
  constructor
  · exact names.nodup_iff.mpr distinct
  · exact names
  · intro feature
    rw [← Dispotcher.lookup_isSome_iff, Dispotcher.status_eq]
    cases dsp.lookup feature <;> simp
  · intro feature
    rw [← Dispotcher.lookup_isSome_iff, Dispotcher.config_eq]
    cases dsp.lookup feature <;> simp
  · intro feature
    rw [← Dispotcher.lookup_isSome_iff]
    cases found : dsp.lookup feature with
    | none => simp [Dispotcher.reset_unknown found]
    | some f => simp [(Dispotcher.reset_known found spot).1]
  · intro e member
    exact config_of_profiles spot perm distinct member
  · intro feature unlisted
    have missing : dsp.lookup feature = none := by simpa [← Dispotcher.lookup_isSome_iff] using unlisted
    simp [Dispotcher.status_eq,Dispotcher.config_eq,Dispotcher.reset_unknown missing,missing]

/-- For every daemon whose dispatcher the ini constructor built and every run of operations:
the names are the loaded ones in some order and without duplicates; status, config and reset
succeed for exactly these; config answers with the config loaded under the name; and a call
with another name raises `invalid_argument` and leaves the list as it is. -/
theorem features_never_drift {spot : Spot S} (keeps : spot.KeepsConfig) (bro : Broccoli R) (p : IniParser)
    (ini : Dictionary) (d : Daemon S) (built : Dispotcher.load p spot (some ini) = .ok d.dsp)
    (operations : List (Operation R)) :
    Undrifted spot (loadEntries p ini) (Operation.run spot bro d operations).dsp := by
  apply undrifted_of_profiles spot _ (loadEntries_distinct p ini)
  have start := load_profiles keeps p ini built
  exact start ▸ run_profiles keeps bro d operations

/-- [mem] and [swap], without keys of their own. -/
def Dictionary.memAndSwap : Dictionary where
  sections := ["mem", "swap"]
  text := fun _ => none
  distinct := by decide

/-- A record that lacks `swap` makes the callback raise between a reset and two calls that
name no feature. -/
theorem mem_and_swap_never_drift :
    let built := Daemon.start (.returning 3) (loadEntries .plain .memAndSwap)
    Undrifted (.returning 3) (loadEntries .plain .memAndSwap) (Operation.run (.returning 3)
      (Broccoli.ofFields (fun _ => true)) built [.reset "mem", .status "cpu",
        .callback [("mem", ⟨BRO_TYPE_DOUBLE, 0x4059000000000000⟩)], .reset "cpu"]).dsp :=
  features_never_drift (Spot.returning_keepsConfig 3) (Broccoli.ofFields (fun _ => true)) .plain .memAndSwap
    (.start (.returning 3) (loadEntries .plain .memAndSwap)) rfl [.reset "mem", .status "cpu",
      .callback [("mem", ⟨BRO_TYPE_DOUBLE, 0x4059000000000000⟩)], .reset "cpu"]

end BroSpotd
