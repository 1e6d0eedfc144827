import BroSpotd.Library.Keyed
import BroSpotd.Library.NodeList
import BroSpotd.MonitoredFeature

/-! `Dispotcher`: the `std::list` of monitored features and the calls that scan it. Nodes
have identities, since another thread may hold an iterator into the list. -/
namespace BroSpotd

structure Dispotcher (S : Type) where
  _features : NodeList (MonitoredFeature S)

namespace Dispotcher

variable {S R : Type}

/-- The features in list order. -/
def features (dsp : Dispotcher S) : List (MonitoredFeature S) := dsp._features.values

def names (dsp : Dispotcher S) : List String := dsp.features.map MonitoredFeature._name

def size (dsp : Dispotcher S) : Nat := dsp._features.nodes.length

/-- The scan that status, config and reset share: the first node of that name. -/
def scan (dsp : Dispotcher S) (feature : String) : Option (Node (MonitoredFeature S)) :=
  dsp._features.find? (fun f => f._name = feature)

def unknown (feature : String) : Exn :=
  .invalid_argument ("The feature '" ++ feature ++ "' is unknown\n")

def status (spot : Spot S) (dsp : Dispotcher S) (feature : String) : Except Exn SpotStatus :=
  match dsp.scan feature with
  | some it => .ok (it.value.status spot)
  | none => .error (unknown feature)

def config (spot : Spot S) (dsp : Dispotcher S) (feature : String) : Except Exn SpotConfig :=
  match dsp.scan feature with
  | some it => .ok (it.value.config spot)
  | none => .error (unknown feature)

/-- `fault` is what building the replacement or its list node raises, if anything. The
old node is erased first; `conf` and `type` were read before. -/
def reset (spot : Spot S) (fault : Option Exn) (feature : String) (dsp : Dispotcher S) :
    Except Exn Unit × Dispotcher S :=
  match dsp.scan feature with
  | none => (.error (unknown feature), dsp)
  | some it =>
    let conf := it.value.config spot
    let type := it.value._bro_type
    let erased := dsp._features.erase it.id
    match fault with
    | some e => (.error e, ⟨erased⟩)
    | none => (.ok (), ⟨erased.emplace_back (.new spot feature type conf)⟩)

/-- What a constructor loop of `emplace_back` calls leaves in the list. -/
def ofFeatures (features : List (MonitoredFeature S)) : Dispotcher S :=
  ⟨features.foldl NodeList.emplace_back .empty⟩

@[simp] theorem features_ofFeatures (features : List (MonitoredFeature S)) :
    (ofFeatures features).features = features := by
  have grows : ∀ list : NodeList (MonitoredFeature S),
      (features.foldl NodeList.emplace_back list).values = list.values ++ features := by
    induction features with
    | nil => simp
    | cons f rest ih => intro list; simp [ih]
  exact (grows .empty).trans (List.nil_append _)

/-- The feature a name leads to. -/
def lookup (dsp : Dispotcher S) (feature : String) : Option (MonitoredFeature S) :=
  Keyed.find MonitoredFeature._name feature dsp.features

theorem scan_value (dsp : Dispotcher S) (feature : String) :
    (dsp.scan feature).map Node.value = dsp.lookup feature := NodeList.find?_value _ _

theorem scan_name {dsp : Dispotcher S} {feature : String} {it : Node (MonitoredFeature S)}
    (found : dsp.scan feature = some it) : it.value._name = feature := by
  simpa using (NodeList.find?_mem found).2

theorem status_eq (spot : Spot S) (dsp : Dispotcher S) (feature : String) :
    dsp.status spot feature = match dsp.lookup feature with
      | some f => .ok (f.status spot)
      | none => .error (unknown feature) := by
  rw [← scan_value, status]
  cases dsp.scan feature <;> rfl

theorem config_eq (spot : Spot S) (dsp : Dispotcher S) (feature : String) :
    dsp.config spot feature = match dsp.lookup feature with
      | some f => .ok (f.config spot)
      | none => .error (unknown feature) := by
  rw [← scan_value, config]
  cases dsp.scan feature <;> rfl

theorem lookup_isSome_iff (dsp : Dispotcher S) (feature : String) :
    (dsp.lookup feature).isSome = true ↔ feature ∈ dsp.names := Keyed.find_isSome_iff _ _ _

/-- An unknown name: `reset` raises and touches nothing. -/
theorem reset_unknown {dsp : Dispotcher S} {feature : String} (missing : dsp.lookup feature = none)
    (spot : Spot S) (fault : Option Exn) :
    dsp.reset spot fault feature = (.error (unknown feature), dsp) := by
  have unseen : dsp.scan feature = none := by simpa [← scan_value] using missing
  simp [reset,unseen]

/-- The replacement that `reset` builds for a feature. -/
def replacement (spot : Spot S) (f : MonitoredFeature S) : MonitoredFeature S :=
  .new spot f._name f._bro_type (f.config spot)

theorem replacement_name {dsp : Dispotcher S} {feature : String} {f : MonitoredFeature S}
    (found : dsp.lookup feature = some f) (spot : Spot S) : (replacement spot f)._name = feature :=
  Keyed.find_key MonitoredFeature._name (x := f) found

theorem reset_known {dsp : Dispotcher S} {feature : String} {f : MonitoredFeature S}
    (found : dsp.lookup feature = some f) (spot : Spot S) :
    (dsp.reset spot none feature).1 = .ok () ∧
    (dsp.reset spot none feature).2.features =
      Keyed.moveToBack MonitoredFeature._name feature (replacement spot f) dsp.features := by
  obtain ⟨it,seen,rfl⟩ : ∃ it, dsp.scan feature = some it ∧ it.value = f := by
    simpa [← scan_value] using found
  have named := scan_name seen
  refine ⟨by simp [reset,seen], ?_⟩
  simp only [reset, seen, features, NodeList.values_emplace_back, NodeList.values_erase_found seen,
    Keyed.moveToBack, replacement, named]

theorem reset_fault {dsp : Dispotcher S} {feature : String} {f : MonitoredFeature S}
    (found : dsp.lookup feature = some f) (spot : Spot S) (e : Exn) :
    (dsp.reset spot (some e) feature).1 = .error e ∧
    (dsp.reset spot (some e) feature).2.features =
      dsp.features.eraseP (fun f => f._name = feature) := by
  obtain ⟨it,seen,rfl⟩ : ∃ it, dsp.scan feature = some it ∧ it.value = f := by
    simpa [← scan_value] using found
  exact ⟨by simp [reset,seen], by simp only [reset, seen, features, NodeList.values_erase_found seen]⟩

/-- What a replacement shares with the feature it replaces, a completed reset only permutes. -/
theorem reset_view {β : Type} (view : MonitoredFeature S → β) (spot : Spot S)
    (same : ∀ f, view (replacement spot f) = view f) (feature : String) (dsp : Dispotcher S) :
    ((dsp.reset spot none feature).2.features.map view).Perm (dsp.features.map view) := by
  cases found : dsp.lookup feature with
  | none => rw [reset_unknown found]
  | some f =>
    rw [(reset_known found spot).2]
    exact Keyed.map_moveToBack _ view found (same f)

theorem reset_names (spot : Spot S) (feature : String) (dsp : Dispotcher S) :
    (dsp.reset spot none feature).2.names.Perm dsp.names :=
  reset_view MonitoredFeature._name spot (fun _ => rfl) feature dsp

theorem lookup_reset_other (spot : Spot S) {feature other : String} (apart : other ≠ feature)
    (dsp : Dispotcher S) : (dsp.reset spot none feature).2.lookup other = dsp.lookup other := by
  cases found : dsp.lookup feature with
  | none => rw [reset_unknown found]
  | some f =>
    rw [lookup, (reset_known found spot).2]
    exact Keyed.find_moveToBack_other _ apart (replacement_name found spot) _

theorem lookup_reset_same (spot : Spot S) {feature : String} {dsp : Dispotcher S}
    (distinct : dsp.names.Nodup) :
    (dsp.reset spot none feature).2.lookup feature = (dsp.lookup feature).map (replacement spot) := by
  cases found : dsp.lookup feature with
  | none => rw [reset_unknown found]; exact found
  | some f =>
    rw [lookup, (reset_known found spot).2]
    exact Keyed.find_moveToBack_same _ (replacement_name found spot) distinct

end Dispotcher

end BroSpotd
