import BroSpotd.Config
import BroSpotd.Ledger

/-! The Broccoli type of a feature over a run. `callback` hands the address of `_bro_type`
to the lookup, which writes the field's actual type through it, and `reset` copies what is
there. A configured 0 asks for no check and is lost at the first record. -/
namespace BroSpotd

variable {S R : Type}

/-- The same library with memory for every event. -/
def Broccoli.allocating (bro : Broccoli R) : Broccoli R := { bro with event_allocated := fun _ => true }

/-- `callback` accepts the record: as far as its events find memory, it returns. -/
def Accepts (spot : Spot S) (bro : Broccoli R) (record : R) (d : Daemon S) : Prop :=
  (callback spot bro.allocating record d).1 = .ok ()

/-- The first known type of a configured one and the actual ones met since. -/
def settled (type : Int32) (tags : List Int32) : Int32 :=
  ((type :: tags).find? (fun tag => tag ≠ BRO_TYPE_UNKNOWN)).getD BRO_TYPE_UNKNOWN

/-- The actual type of a field in a record. -/
def tagOf (bro : Broccoli R) (name : String) : Daemon.Action R → Option Int32
  | .record record => (bro.field record name).map BroVal.tag
  | .reset _ _ => none

def note (bro : Broccoli R) (name : String) (tags : List Int32) (a : Daemon.Action R) : List Int32 :=
  tags ++ (tagOf bro name a).toList

theorem accepts_iff (spot : Spot S) (bro : Broccoli R) (record : R) (d : Daemon S) :
    Accepts spot bro record d ↔ ∀ f ∈ d.dsp.features,
      (bro.bro_record_get_named_val record f._name f._bro_type).1.isSome = true := by
  constructor
  · exact @callback_ok_readable S R spot bro.allocating record d
  · exact @callback_returns S R spot bro.allocating record d (fun _ => rfl)

theorem settled_known {type : Int32} (known : type ≠ BRO_TYPE_UNKNOWN) (tags : List Int32) :
    settled type tags = type := by simp [settled,known]

theorem settled_unknown (tags : List Int32) :
    settled BRO_TYPE_UNKNOWN tags = BRO_TYPE_UNKNOWN ↔ ∀ tag ∈ tags, tag = BRO_TYPE_UNKNOWN := by
  have skip : settled BRO_TYPE_UNKNOWN tags =
      (tags.find? (fun tag => tag ≠ BRO_TYPE_UNKNOWN)).getD BRO_TYPE_UNKNOWN := by simp [settled]
  rw [skip]
  cases found : tags.find? (fun tag => tag ≠ BRO_TYPE_UNKNOWN) with
  | none => simpa using List.find?_eq_none.mp found
  | some tag =>
    have known : tag ≠ BRO_TYPE_UNKNOWN := by simpa using List.find?_some found
    exact iff_of_false known (fun all => known (all tag (List.mem_of_find?_eq_some found)))

/-- The configured type is the settled one unless it is 0 and a known type was met. -/
theorem settled_eq_iff (type : Int32) (tags : List Int32) :
    settled type tags = type ↔ (type = BRO_TYPE_UNKNOWN → ∀ tag ∈ tags, tag = BRO_TYPE_UNKNOWN) := by
  by_cases unknown : type = BRO_TYPE_UNKNOWN
  · subst unknown
    simp [settled_unknown]
  · simp [settled_known unknown,unknown]

theorem settled_concat (type : Int32) (tags : List Int32) (tag : Int32) :
    settled type (tags ++ [tag]) =
      if settled type tags = BRO_TYPE_UNKNOWN then tag else settled type tags := by
  simp only [settled, ← List.cons_append, List.find?_append]
  rcases Option.eq_none_or_eq_some ((type :: tags).find? (fun tag => tag ≠ BRO_TYPE_UNKNOWN)) with
    found | ⟨first,found⟩
  · simp only [found, Option.none_or, Option.getD_none, if_true]
    by_cases unknown : tag = BRO_TYPE_UNKNOWN <;> simp [unknown]
  · have known : first ≠ BRO_TYPE_UNKNOWN := by simpa using List.find?_some found
    simp only [found, Option.some_or, Option.getD_some, if_neg known]

theorem run_note (bro : Broccoli R) (name : String) (actions : List (Daemon.Action R)) :
    Runs.run (note bro name) [] actions = actions.filterMap (tagOf bro name) := by
  have general : ∀ tags, Runs.run (note bro name) tags actions =
      tags ++ actions.filterMap (tagOf bro name) := by
    induction actions with
    | nil => simp
    | cons a rest ih =>
      intro tags
      rw [Runs.run_cons, ih, List.filterMap_cons]
      cases seen : tagOf bro name a <;> simp [note,seen]
  exact general []

/-- After a whole run, an entry's feature holds the type that the records have settled. -/
theorem settled_run {spot : Spot S} {bro : Broccoli R} {entries : List Entry}
    (distinct : (entries.map Entry.name).Nodup) {e : Entry} (member : e ∈ entries)
    {actions : List (Daemon.Action R)} (whole : Daemon.Whole spot bro (.start spot entries) actions) :
    ∃ f, (Daemon.run spot bro (.start spot entries) actions).dsp.lookup e.name = some f ∧
      f._bro_type = settled e.bro_type (actions.filterMap (tagOf bro e.name)) := by
  have untouched : ∀ feature tags, note bro e.name tags (.reset feature none) = tags :=
    fun _ tags => List.append_nil tags
  have configured : e.bro_type = settled e.bro_type [] := ((settled_eq_iff _ _).mpr (by simp)).symm
  rw [← run_note]
  refine name_tracked e.name (fun f tags => f._bro_type = settled e.bro_type tags) (note bro e.name)
    ?_ ?_ ?_ whole (by rw [names_start]; exact distinct) ⟨_, lookup_start spot distinct member, configured⟩
  · intro f tags record named readable type
    obtain ⟨value,stored,agrees,written⟩ := bro.lookup_some readable
    rw [named] at stored
    rw [type] at agrees
    have noted : note bro e.name tags (.record record) = tags ++ [value.tag] := by
      simp [note,tagOf,stored]
    rw [noted, settled_concat]
    simp only [observe, written]
    rcases agrees with unknown | same
    · rw [if_pos unknown]
    · split
      · rfl
      · exact same
  · intro f tags type
    rw [untouched]
    exact type
  · intro f tags feature other type
    rw [untouched]
    exact type

/-- Every feature has the type that its entry configured. -/
def TypesKept (entries : List Entry) (d : Daemon S) : Prop :=
  ∀ f ∈ d.dsp.features, ∃ e ∈ entries, e.name = f._name ∧ f._bro_type = e.bro_type

/-- With the configured types in place, the entries alone decide what is accepted. -/
theorem accepts_of_typesKept {spot : Spot S} {bro : Broccoli R} {entries : List Entry} {d : Daemon S}
    (distinct : (entries.map Entry.name).Nodup) (names : d.dsp.names.Perm (entries.map Entry.name))
    (kept : TypesKept entries d) (record : R) :
    Accepts spot bro record d ↔ ∀ e ∈ entries,
      (bro.bro_record_get_named_val record e.name e.bro_type).1.isSome = true := by
  rw [accepts_iff]
  constructor
  · intro readable e member
    obtain ⟨f,standing,named⟩ := List.mem_map.mp (names.mem_iff.mpr (List.mem_map_of_mem member))
    obtain ⟨e',member',named',type⟩ := kept f standing
    have same : e' = e := List.inj_on_of_nodup_map distinct member' member (named'.trans named)
    subst same
    rw [named', ← type]
    exact readable f standing
  · intro readable f standing
    obtain ⟨e,member,named,type⟩ := kept f standing
    rw [type, ← named]
    exact readable e member

theorem typesKept_iff {spot : Spot S} {bro : Broccoli R} {entries : List Entry}
    (distinct : (entries.map Entry.name).Nodup) {actions : List (Daemon.Action R)}
    (whole : Daemon.Whole spot bro (.start spot entries) actions) :
    TypesKept entries (Daemon.run spot bro (.start spot entries) actions) ↔
      ∀ e ∈ entries, settled e.bro_type (actions.filterMap (tagOf bro e.name)) = e.bro_type := by
  have names := run_names whole
  rw [names_start] at names
  constructor
  · intro kept e member
    obtain ⟨f,found,type⟩ := settled_run distinct member whole
    obtain ⟨e',member',named',type'⟩ := kept f (Keyed.find_mem _ found)
    have named : f._name = e.name := Keyed.find_key _ found
    have same : e' = e := List.inj_on_of_nodup_map distinct member' member (named'.trans named)
    subst same
    exact type.symm.trans type'
  · intro settles f standing
    obtain ⟨e,member,named⟩ := List.mem_map.mp (names.mem_iff.mp (List.mem_map_of_mem standing))
    obtain ⟨f',found,type⟩ := settled_run distinct member whole
    have unique := names.nodup_iff.mpr distinct
    have same : f = f' := by
      rw [named] at found
      exact Option.some.inj ((Keyed.find_of_mem _ unique standing).symm.trans found)
    subst same
    exact ⟨e,member,named,type.trans (settles e member)⟩

/-- The types met are all 0 when every record handled gives the field the type 0. -/
theorem tags_unknown_iff (bro : Broccoli R) (name : String) (actions : List (Daemon.Action R)) :
    (∀ tag ∈ actions.filterMap (tagOf bro name), tag = BRO_TYPE_UNKNOWN) ↔
      ∀ record value, .record record ∈ actions → bro.field record name = some value →
        value.tag = BRO_TYPE_UNKNOWN := by
  constructor
  · intro all record value handled stored
    exact all _ (List.mem_filterMap.mpr ⟨_,handled,by simp [tagOf,stored]⟩)
  · intro all tag met
    obtain ⟨a,handled,seen⟩ := List.mem_filterMap.mp met
    cases a with
    | record record =>
      obtain ⟨value,stored,rfl⟩ := Option.map_eq_some_iff.mp seen
      exact all record value handled stored
    | reset feature fault => cases seen

/-- After a run over any ini file, the features have their configured types and the next
record is judged as by a fresh dispatcher, exactly when no feature configured with 0 has
met a field of a known type. -/
theorem types_kept_iff_unasked (spot : Spot S) (bro : Broccoli R) (p : IniParser) (ini : Dictionary)
    (actions : List (Daemon.Action R))
    (whole : Daemon.Whole spot bro (.start spot (loadEntries p ini)) actions) :
    (TypesKept (loadEntries p ini) (Daemon.run spot bro (.start spot (loadEntries p ini)) actions) ∧
      ∀ record, Accepts spot bro record (Daemon.run spot bro (.start spot (loadEntries p ini)) actions) ↔
        Accepts spot bro record (.start spot (loadEntries p ini))) ↔
    ∀ e ∈ loadEntries p ini, e.bro_type = BRO_TYPE_UNKNOWN →
      ∀ record value, .record record ∈ actions → bro.field record e.name = some value →
        value.tag = BRO_TYPE_UNKNOWN := by
  have distinct := loadEntries_distinct p ini
  have kept := typesKept_iff distinct whole
  simp only [settled_eq_iff, tags_unknown_iff] at kept
  have names := run_names whole
  rw [names_start] at names
  have fresh : TypesKept (loadEntries p ini) (Daemon.start spot (loadEntries p ini)) := by
    intro f standing
    rw [Daemon.start, Dispotcher.features_ofFeatures] at standing
    obtain ⟨e,member,rfl⟩ := List.mem_map.mp standing
    exact ⟨e,member,rfl,rfl⟩
  rw [← kept]
  refine ⟨And.left, fun typed => ⟨typed, fun record => ?_⟩⟩
  rw [accepts_of_typesKept distinct names typed, accepts_of_typesKept distinct (by rw [names_start]) fresh]

/-- [mem] asking for no type check, and for a double. -/
def Dictionary.unchecked : Dictionary := .memWith ("mem:bro_type","0")
def Dictionary.checked : Dictionary := .memWith ("mem:bro_type","5")

theorem checked_type_kept :
    Accepts (.returning 3) (Broccoli.ofFields (fun _ => true)) [("mem", ⟨BRO_TYPE_DOUBLE, 7⟩)]
      (Daemon.run (.returning 3) (Broccoli.ofFields (fun _ => true))
        (.start (.returning 3) (loadEntries .plain .checked)) [.record [("mem", ⟨BRO_TYPE_DOUBLE, 5⟩)],
          .reset "mem" none]) :=
  (((types_kept_iff_unasked (.returning 3) (Broccoli.ofFields (fun _ => true)) .plain .checked
    [.record [("mem", ⟨BRO_TYPE_DOUBLE, 5⟩)], .reset "mem" none] ⟨rfl,rfl,trivial⟩).mpr
      (by
        intro e member unknown
        have typed : ∀ e ∈ loadEntries .plain .checked, e.bro_type ≠ BRO_TYPE_UNKNOWN := by decide
        exact absurd unknown (typed e member))).2 _).mpr rfl

/-- [mem] configured with 0 takes a double, and then a count, which a fresh dispatcher
takes, is refused; a reset does not help. -/
theorem adopted_type_refuses_count :
    let bro := Broccoli.ofFields (fun _ => true)
    let fresh := Daemon.start (.returning 3) (loadEntries .plain .unchecked)
    let actions := [Daemon.Action.record [("mem", ⟨BRO_TYPE_DOUBLE, 0x4059000000000000⟩)], .reset "mem" none]
    let d := Daemon.run (.returning 3) bro fresh actions
    Daemon.Whole (.returning 3) bro fresh actions ∧
    (loadEntries .plain .unchecked).map Entry.bro_type = [BRO_TYPE_UNKNOWN] ∧
    d.dsp.features.map MonitoredFeature._bro_type = [BRO_TYPE_DOUBLE] ∧
    Accepts (.returning 3) bro [("mem", ⟨BRO_TYPE_COUNT, 100⟩)] fresh ∧
    ¬ Accepts (.returning 3) bro [("mem", ⟨BRO_TYPE_COUNT, 100⟩)] d := by
  refine ⟨⟨rfl,rfl,trivial⟩, by decide, by decide, rfl, ?_⟩
  intro accepted
  cases accepted

end BroSpotd
