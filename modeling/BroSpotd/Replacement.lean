import BroSpotd.Dispotcher

/-! Failures inside `reset`. The old node is erased before its replacement is built, so an
exception in between leaves a list without the feature. `AllOrNothing` says what a caller
may expect of a reset; it holds of the code for every outcome but that one. -/
namespace BroSpotd

variable {S : Type}

/-- The first feature of the name has given way to a fresh one, built from its name, type
and config at the tail; the others stand as they stood. -/
def Replaced (spot : Spot S) (feature : String) (before after : List (MonitoredFeature S)) : Prop :=
  ∃ front f back, before = front ++ f :: back ∧ f._name = feature ∧ (∀ g ∈ front, g._name ≠ feature) ∧
    after = front ++ back ++ [.new spot f._name f._bro_type (f.config spot)]

/-- A reset that raises leaves the list as it was; one that returns has replaced the feature. -/
def AllOrNothing (spot : Spot S) (fault : Option Exn) (feature : String) (dsp : Dispotcher S) : Prop :=
  match dsp.reset spot fault feature with
  | (.error _, left) => left.features = dsp.features
  | (.ok (), left) => Replaced spot feature dsp.features left.features

/-- What is left after the replacement could not be built is shorter by one feature. -/
theorem reset_fault_loses {dsp : Dispotcher S} {feature : String} {f : MonitoredFeature S}
    (found : dsp.lookup feature = some f) (spot : Spot S) (e : Exn) :
    (dsp.reset spot (some e) feature).2.features.length + 1 = dsp.features.length := by
  obtain ⟨front,back,split,_,erased⟩ := Keyed.find_split MonitoredFeature._name found
  have left := (Dispotcher.reset_fault found spot e).2
  rw [erased] at left
  simp only [left, split, List.length_append, List.length_cons]
  omega

theorem reset_replaces {dsp : Dispotcher S} {feature : String} {f : MonitoredFeature S}
    (found : dsp.lookup feature = some f) (spot : Spot S) :
    Replaced spot feature dsp.features (dsp.reset spot none feature).2.features := by
  obtain ⟨front,back,split,before,erased⟩ := Keyed.find_split MonitoredFeature._name found
  refine ⟨front, f, back, split, Keyed.find_key MonitoredFeature._name found, before, ?_⟩
  have left := (Dispotcher.reset_known found spot).2
  rw [Keyed.moveToBack, erased] at left
  exact left

/-- For every list, every name and whatever building the replacement raises: the reset is
all or nothing exactly when the name is unknown or nothing is raised there. -/
theorem all_or_nothing_iff (spot : Spot S) (fault : Option Exn) (feature : String) (dsp : Dispotcher S) :
    AllOrNothing spot fault feature dsp ↔ feature ∉ dsp.names ∨ fault = none := by
  unfold AllOrNothing
  cases found : dsp.lookup feature with
  | none =>
    have unknown : feature ∉ dsp.names := by simp [← Dispotcher.lookup_isSome_iff,found]
    simp [Dispotcher.reset_unknown found,unknown]
  | some f =>
    have known : feature ∈ dsp.names := by simp [← Dispotcher.lookup_isSome_iff,found]
    cases fault with
    | none =>
      have replaces := reset_replaces found spot
      have returns := (Dispotcher.reset_known found spot).1
      rcases outcome : dsp.reset spot none feature with ⟨result,left⟩
      simp only [outcome] at replaces returns
      subst returns
      simpa using replaces
    | some e =>
      have loses := reset_fault_loses found spot e
      have raises := (Dispotcher.reset_fault found spot e).1
      rcases outcome : dsp.reset spot (some e) feature with ⟨result,left⟩
      simp only [outcome] at loses raises
      subst raises
      apply iff_of_false
      · intro unchanged
        simp only [unchanged] at loses
        omega
      · simp [known]

/-- Memory runs out between the erasure of `mem` and its replacement: the call raises and
`mem` is monitored no more. -/
theorem failed_reset_loses_mem :
    let dsp := Dispotcher.ofFeatures [MonitoredFeature.new (.returning 3) "mem" BRO_TYPE_DOUBLE .shipped,
      .new (.returning 3) "swap" BRO_TYPE_DOUBLE .shipped]
    (dsp.reset (.returning 3) (some .bad_alloc) "mem").2.names = ["swap"] ∧
    ¬ AllOrNothing (.returning 3) (some .bad_alloc) "mem" dsp := by
  refine ⟨rfl, ?_⟩
  intro (unchanged : _ = _)
  exact absurd (congrArg List.length unchanged) (by decide)

end BroSpotd
