import BroSpotd.Library.Keyed
import BroSpotd.Roster

/-! The constructor from maps, and what it shares with `reset`. A dispatcher rebuilt from its
own names, types and configs is what is left when each of its features is reset in turn. -/
namespace BroSpotd

variable {S R : Type}

namespace Dispotcher

/-- The constructor from maps. `fallback` is the config of `Spot()`; a feature that either map
lacks is given that and a double, even where the other map has it. -/
def of_maps (spot : Spot S) (fallback : SpotConfig) (feature_names : List String)
    (feature_types : List (String × Int32)) (configs : List (String × SpotConfig)) : Dispotcher S :=
  .ofFeatures (feature_names.map (fun name =>
    match feature_types.lookup name, configs.lookup name with
    | some type, some config => .new spot name type config
    | _, _ => .new spot name BRO_TYPE_DOUBLE fallback))

/-- The types as a map from the names. -/
def types (dsp : Dispotcher S) : List (String × Int32) := dsp.features.map (fun f => (f._name,f._bro_type))

variable (spot : Spot S)

/-- A map made of the features leads from a name to what it holds of the first one so named. -/
theorem lookup_map {β : Type} (view : MonitoredFeature S → β) (name : String) (features : List (MonitoredFeature S)) :
    (features.map (fun f => (f._name, view f))).lookup name =
      (Keyed.find MonitoredFeature._name name features).map view := by
  induction features with
  | nil => rfl
  | cons f rest ih =>
    rw [List.map_cons, Keyed.lookup_entry, Keyed.find_cons, ih]
    by_cases same : f._name = name
    · simp [same]
    · simp [same,Ne.symm same]

theorem rebuild (fallback : SpotConfig) {dsp : Dispotcher S} (distinct : dsp.names.Nodup) :
    (of_maps spot fallback dsp.names dsp.types (dsp.profiles spot)).features =
      dsp.features.map (replacement spot) := by
  rw [of_maps, features_ofFeatures, names, List.map_map]
  apply List.map_congr_left
  intro f member
  have found := Keyed.find_of_mem MonitoredFeature._name distinct member
  have typed : dsp.types.lookup f._name = some f._bro_type := by
    rw [types, lookup_map, found, Option.map_some]
  have configured : (dsp.profiles spot).lookup f._name = some (f.config spot) := by
    unfold profiles MonitoredFeature.profile
    rw [lookup_map, found, Option.map_some]
  simp only [Function.comp, typed, configured, replacement]

/-- The first feature in the list is the one that a reset of its name takes. -/
theorem reset_first {dsp : Dispotcher S} {f : MonitoredFeature S} {rest : List (MonitoredFeature S)}
    (features : dsp.features = f :: rest) :
    (dsp.reset spot none f._name).2.features = rest ++ [replacement spot f] := by
  have found : dsp.lookup f._name = some f := by
    rw [lookup, features, Keyed.find_cons, if_pos rfl]
  rw [(reset_known found spot).2, features, Keyed.moveToBack, List.eraseP_cons_of_pos (by simp)]

end Dispotcher

/-- Resets of the features that stand first, in their order. -/
theorem reset_in_turn (spot : Spot S) (bro : Broccoli R) (todo : List (MonitoredFeature S))
    {d : Daemon S} {fresh : List (MonitoredFeature S)} (features : d.dsp.features = todo ++ fresh) :
    (Operation.run spot bro d (todo.map (fun f => .reset f._name))).dsp.features =
      fresh ++ todo.map (Dispotcher.replacement spot) := by
  induction todo generalizing d fresh with
  | nil => simpa [Operation.run] using features
  | cons f rest ih =>
    have first : (d.dsp.reset spot none f._name).2.features = rest ++ (fresh ++ [Dispotcher.replacement spot f]) :=
      (Dispotcher.reset_first spot features).trans (List.append_assoc ..)
    rw [List.map_cons, List.map_cons, List.append_cons]
    exact ih (d := d.next spot bro (.reset f._name none)) first

/-- At any time of any run whose resets build their replacements: to reset every feature in the
order of `names()` comes to the same features, in the same order, as to build the dispatcher
again from its names, types and configs. -/
theorem reset_of_all_rebuilds {spot : Spot S} (keeps : spot.KeepsConfig) (bro : Broccoli R) (p : IniParser)
    (ini : Dictionary) (d : Daemon S) (built : Dispotcher.load p spot (some ini) = .ok d.dsp)
    (operations : List (Operation R)) (fallback : SpotConfig) :
    let dsp := (Operation.run spot bro d operations).dsp
    (Operation.run spot bro d (operations ++ dsp.names.map .reset)).dsp.features =
      (Dispotcher.of_maps spot fallback dsp.names dsp.types (dsp.profiles spot)).features := by
  intro dsp
  have start := load_profiles keeps p ini built
  have distinct : dsp.names.Nodup :=
    (undrifted_of_profiles spot (start ▸ run_profiles keeps bro d operations) (loadEntries_distinct p ini)).distinct
  have split : Operation.run spot bro d (operations ++ dsp.names.map .reset) =
      Operation.run spot bro (Operation.run spot bro d operations) (dsp.names.map .reset) := Runs.run_append ..
  have resets : (dsp.names.map .reset : List (Operation R)) = dsp.features.map (fun f => .reset f._name) := by
    simp [Dispotcher.names,Function.comp_def]
  rw [Dispotcher.rebuild spot fallback distinct, split, resets,
    reset_in_turn spot bro dsp.features (List.append_nil _).symm, List.nil_append]

theorem reset_of_mem_and_swap_rebuilds :
    let d := Daemon.start (.returning 3) (loadEntries .plain .memAndSwap)
    let bro := Broccoli.ofFields (fun _ => true)
    let dsp := (Operation.run (.returning 3) bro d [.reset "mem"]).dsp
    (Operation.run (.returning 3) bro d ([.reset "mem"] ++ dsp.names.map .reset)).dsp.features =
      (Dispotcher.of_maps (.returning 3) .shipped dsp.names dsp.types (dsp.profiles (.returning 3))).features :=
  reset_of_all_rebuilds (Spot.returning_keepsConfig 3) (Broccoli.ofFields (fun _ => true)) .plain .memAndSwap
    (.start (.returning 3) (loadEntries .plain .memAndSwap)) rfl [.reset "mem"] .shipped

end BroSpotd
