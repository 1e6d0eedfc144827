import BroSpotd.Config
import BroSpotd.Library.Keyed
import Mathlib.Data.List.Forall2

/-! Ini files as sequences of sections, and what of a file reaches a feature. `iniparser_load`
is a parameter, of which the constructor needs that it enumerates a file's sections in order
and answers for each key with that section's own text. `IniParser.entry` is the abstract
constructor: the entry of a section as a function of what is written in it and under
[default], key by key. The code's loop over the sections computes it for each of them. -/
namespace BroSpotd

/-- A section and its lines, in file order; names and keys as the loader spells them. -/
structure IniSection where
  name : String
  lines : List (String × String)
  deriving DecidableEq, Repr

structure IniFile where
  sections : List IniSection
  distinct : (sections.map IniSection.name).Nodup

namespace IniFile

def names (file : IniFile) : List String := file.sections.map IniSection.name

/-- The text of a key in a section; of several lines with that key, the last one's. -/
def value (file : IniFile) (sec_name key : String) : Option String :=
  (Keyed.find IniSection.name sec_name file.sections).bind (fun s => s.lines.reverse.lookup key)

/-- The dictionary that `iniparser_load` makes of the file enumerates its sections in file
order and looks keys up by section and name. -/
structure Loads (iniparser_load : IniFile → Dictionary) (file : IniFile) : Prop where
  in_order : (iniparser_load file).sections = file.names
  by_name : ∀ sec_name ∈ "default" :: file.names, ∀ key,
    (iniparser_load file).text (sec_name ++ ":" ++ key) = file.value sec_name key

end IniFile

/-- The entry of a section from its own texts and the default's. -/
def IniParser.entry (p : IniParser) (sec_name : String) (own shared : String → Option String) : Entry :=
  let double := fun key fallback => Layers.resolve INIT_PARSER_NOKEY_double ((own key).bind p.double)
    (Layers.resolve INIT_PARSER_NOKEY_double ((shared key).bind p.double) fallback)
  let int := fun key fallback => Layers.resolve INIT_PARSER_NOKEY ((own key).bind p.int)
    (Layers.resolve INIT_PARSER_NOKEY ((shared key).bind p.int) fallback)
  let boolean := fun key fallback => ((own key).bind Dictionary.boolean).getD
    (((shared key).bind Dictionary.boolean).getD fallback)
  { name := sec_name
    bro_type := int "bro_type" BRO_TYPE_DOUBLE
    config := {
      q := double "q" fallback_config.q
      bounded := boolean "bounded" fallback_config.bounded
      max_excess := int "max_excess" fallback_config.max_excess
      alert := true
      up := boolean "up" fallback_config.up
      down := boolean "down" fallback_config.down
      n_init := int "n_init" fallback_config.n_init
      level := double "level" fallback_config.level } }

theorem loadSection_entry (p : IniParser) (ini : Dictionary) {sec_name : String} (other : sec_name ≠ "default") :
    loadSection p ini sec_name = some (p.entry sec_name (fun key => ini.text (sec_name ++ ":" ++ key))
      (fun key => ini.text ("default" ++ ":" ++ key))) := by
  obtain ⟨e,loads⟩ : ∃ e, loadSection p ini sec_name = some e := ⟨_, if_pos other⟩
  have config := loadSection_config p ini loads
  have type := loadSection_type p ini loads
  have name := loadSection_name p ini loads
  rw [get_config_layers] at config
  calc
    loadSection p ini sec_name = some ⟨e.name,e.bro_type,e.config⟩ := loads
    _ = some (p.entry sec_name _ _) := by rw [name, type, config]; rfl

/-- The order of the sections does not change what is written in them. -/
theorem value_perm {file file' : IniFile} (perm : file.sections.Perm file'.sections) (sec_name key : String) :
    file.value sec_name key = file'.value sec_name key := by
  rw [IniFile.value, IniFile.value, Keyed.find_perm _ file.distinct perm]

/-- Equal but for the field that a key sets. -/
structure SameBut (k : String) (e e' : Entry) : Prop where
  name : e.name = e'.name
  bro_type : k ≠ "bro_type" → e.bro_type = e'.bro_type
  q : k ≠ "q" → e.config.q = e'.config.q
  bounded : k ≠ "bounded" → e.config.bounded = e'.config.bounded
  max_excess : k ≠ "max_excess" → e.config.max_excess = e'.config.max_excess
  alert : e.config.alert = e'.config.alert
  up : k ≠ "up" → e.config.up = e'.config.up
  down : k ≠ "down" → e.config.down = e'.config.down
  n_init : k ≠ "n_init" → e.config.n_init = e'.config.n_init
  level : k ≠ "level" → e.config.level = e'.config.level

/-- A key under [default] reaches its own field only. -/
theorem entry_sameBut (p : IniParser) (sec_name : String) (own : String → Option String) {k : String}
    {shared shared' : String → Option String} (agree : ∀ key, key ≠ k → shared key = shared' key) :
    SameBut k (p.entry sec_name own shared) (p.entry sec_name own shared') := by
  constructor
  case name => rfl
  case alert => rfl
  all_goals
    intro apart
    simp only [IniParser.entry, agree _ apart.symm]

section Loaded

variable (p : IniParser) {iniparser_load : IniFile → Dictionary} {file file' : IniFile}

/-- Every section but [default] gives its entry, in file order. -/
theorem loadEntries_load (loads : file.Loads iniparser_load) :
    loadEntries p (iniparser_load file) = (file.names.filter (fun sec_name => sec_name ≠ "default")).map
      (fun sec_name => p.entry sec_name (file.value sec_name) (file.value "default")) := by
  have defaults := loads.by_name "default" List.mem_cons_self
  have texts := fun sec_name member => loads.by_name sec_name (List.mem_cons_of_mem _ member)
  rw [loadEntries_eq, loads.in_order]
  generalize file.names = names at texts
  induction names with
  | nil => rfl
  | cons sec_name rest ih =>
    have later := ih (fun name member => texts name (List.mem_cons_of_mem _ member))
    by_cases default : sec_name = "default"
    · simpa [default,loadSection] using later
    · rw [List.filterMap_cons, loadSection_entry p _ default, List.filter_cons_of_pos (by simpa using default),
        List.map_cons, later]
      simp only [texts sec_name List.mem_cons_self, defaults]

theorem loadEntries_load_names (loads : file.Loads iniparser_load) :
    (loadEntries p (iniparser_load file)).map Entry.name =
      file.names.filter (fun sec_name => sec_name ≠ "default") := by
  rw [loadEntries_names, loads.in_order]

theorem loadEntries_perm (loads : file.Loads iniparser_load) (loads' : file'.Loads iniparser_load)
    (perm : file.sections.Perm file'.sections) :
    (loadEntries p (iniparser_load file)).Perm (loadEntries p (iniparser_load file')) := by
  have same : file.value = file'.value := by
    funext sec_name key
    exact value_perm perm sec_name key
  rw [loadEntries_load p loads, loadEntries_load p loads', same]
  exact ((perm.map IniSection.name).filter _).map _

/-- Files with the same sections are compared section by section. -/
theorem loadEntries_forall₂ (loads : file.Loads iniparser_load) (loads' : file'.Loads iniparser_load)
    (names : file.names.filter (fun sec_name => sec_name ≠ "default") =
      file'.names.filter (fun sec_name => sec_name ≠ "default"))
    {related : Entry → Entry → Prop}
    (each : ∀ sec_name, sec_name ≠ "default" →
      related (p.entry sec_name (file.value sec_name) (file.value "default"))
        (p.entry sec_name (file'.value sec_name) (file'.value "default"))) :
    List.Forall₂ related (loadEntries p (iniparser_load file)) (loadEntries p (iniparser_load file')) := by
  rw [loadEntries_load p loads, loadEntries_load p loads', ← names, List.forall₂_map_left_iff,
    List.forall₂_map_right_iff, List.forall₂_same]
  intro sec_name member
  apply each
  simpa using (List.mem_filter.mp member).2

end Loaded

/-- Two files and the features built from them. (a) Sections in another order: the same
entries, one for each non-default section, in each file's order. (b) Other keys in the
section `g`: the same entries but for `g`. (c) Another value, or none, for one key of
[default]: the same entries but for the field of that key. -/
theorem sections_do_not_leak (p : IniParser) (iniparser_load : IniFile → Dictionary) (file file' : IniFile)
    (loads : file.Loads iniparser_load) (loads' : file'.Loads iniparser_load) :
    (file.sections.Perm file'.sections →
      (loadEntries p (iniparser_load file)).Perm (loadEntries p (iniparser_load file')) ∧
      (loadEntries p (iniparser_load file)).map Entry.name =
        file.names.filter (fun sec_name => sec_name ≠ "default") ∧
      (loadEntries p (iniparser_load file')).map Entry.name =
        file'.names.filter (fun sec_name => sec_name ≠ "default")) ∧
    (∀ g, g ≠ "default" → file.names = file'.names →
      (∀ sec_name key, sec_name ≠ g → file.value sec_name key = file'.value sec_name key) →
      List.Forall₂ (fun e e' => e.name = e'.name ∧ (e.name ≠ g → e = e'))
        (loadEntries p (iniparser_load file)) (loadEntries p (iniparser_load file'))) ∧
    ∀ k, file.names.filter (fun sec_name => sec_name ≠ "default") =
        file'.names.filter (fun sec_name => sec_name ≠ "default") →
      (∀ sec_name key, (sec_name,key) ≠ ("default",k) → file.value sec_name key = file'.value sec_name key) →
      List.Forall₂ (SameBut k) (loadEntries p (iniparser_load file)) (loadEntries p (iniparser_load file')) := by
  refine ⟨?_, ?_, ?_⟩
  · intro perm
    exact ⟨loadEntries_perm p loads loads' perm, loadEntries_load_names p loads, loadEntries_load_names p loads'⟩
  · intro g other names same
    apply loadEntries_forall₂ p loads loads' (by rw [names])
    intro sec_name _
    refine ⟨rfl, ?_⟩
    intro apart
    have own : file.value sec_name = file'.value sec_name := funext (fun key => same sec_name key apart)
    have shared : file.value "default" = file'.value "default" := funext (fun key => same _ key other.symm)
    simp only [own, shared]
  · intro k names same
    apply loadEntries_forall₂ p loads loads' names
    intro sec_name other
    have own : file.value sec_name = file'.value sec_name :=
      funext (fun key => same sec_name key (by simp [other]))
    rw [own]
    apply entry_sameBut
    intro key apart
    exact same _ key (by simp [apart])

/-- [default] and [mem] with the given lines, and an empty [swap]. -/
def IniFile.defaultFirst (default mem : List (String × String)) : IniFile where
  sections := [⟨"default",default⟩, ⟨"mem",mem⟩, ⟨"swap",[]⟩]
  distinct := by simp

def IniFile.defaultLast (default mem : List (String × String)) : IniFile where
  sections := [⟨"swap",[]⟩, ⟨"mem",mem⟩, ⟨"default",default⟩]
  distinct := by simp

/-- The lines one by one, each under its joined key. -/
def IniFile.entries (file : IniFile) : List (String × String) :=
  file.sections.flatMap (fun s => s.lines.map (fun line => (s.name ++ ":" ++ line.1, line.2)))

/-- What iniparser makes of a file in lower case, as those above. -/
def IniFile.stored (file : IniFile) : Dictionary where
  sections := file.names
  text := fun key => file.entries.reverse.lookup key
  distinct := file.distinct

theorem value_defaultFirst (default mem : List (String × String)) (sec_name key : String) :
    (IniFile.defaultFirst default mem).value sec_name key =
      if "default" = sec_name then default.reverse.lookup key
      else if "mem" = sec_name then mem.reverse.lookup key
      else none := by
  simp only [IniFile.value, IniFile.defaultFirst, Keyed.find_cons, Keyed.find_nil]
  split
  · rfl
  · split
    · rfl
    · split <;> rfl

/-- The entry is one of this section, by what it begins with. -/
def ofSection (sec_name : String) (entry : String × String) : Bool :=
  (sec_name ++ ":").toList.isPrefixOf entry.1.toList

/-- A key is looked up among the entries of its section. -/
theorem lookup_own {sec_name : String} {entries lines : List (String × String)}
    (own : entries.filter (ofSection sec_name) = lines.map (fun line => (sec_name ++ ":" ++ line.1, line.2)))
    (key : String) :
    entries.lookup (sec_name ++ ":" ++ key) = lines.lookup key := by
  have passes : ∀ text, ofSection sec_name (sec_name ++ ":" ++ key, text) = true := by
    simp [ofSection,String.toList_append]
  rw [← Keyed.lookup_filter passes entries, own]
  clear own
  induction lines with
  | nil => rfl
  | cons line rest ih => simp only [List.map_cons, Keyed.lookup_entry, String.append_right_inj, ih]

/-- For a concrete file the lookup by name is a matter of comparing entries. -/
theorem IniFile.loads_stored {file : IniFile}
    (own : ∀ sec_name ∈ "default" :: file.names, file.entries.reverse.filter (ofSection sec_name) =
      ((Keyed.find IniSection.name sec_name file.sections).elim [] (fun s => s.lines.reverse)).map
        (fun line => (sec_name ++ ":" ++ line.1, line.2))) : file.Loads IniFile.stored where
  in_order := rfl
  by_name := by
    intro sec_name member key
    refine (lookup_own (own sec_name member) key).trans ?_
    rw [value]
    cases Keyed.find IniSection.name sec_name file.sections <;> rfl

/-- The sections reversed; another n_init for mem; and no q under [default]. -/
theorem mem_and_default_do_not_leak :
    let iniparser_load := IniFile.stored
    let file := IniFile.defaultFirst [("q","0.001")] [("n_init","500")]
    (loadEntries .plain (iniparser_load file)).Perm
      (loadEntries .plain (iniparser_load (.defaultLast [("q","0.001")] [("n_init","500")]))) ∧
    List.Forall₂ (fun e e' => e.name = e'.name ∧ (e.name ≠ "mem" → e = e'))
      (loadEntries .plain (iniparser_load file))
      (loadEntries .plain (iniparser_load (.defaultFirst [("q","0.001")] [("n_init","700")]))) ∧
    List.Forall₂ (SameBut "q") (loadEntries .plain (iniparser_load file))
      (loadEntries .plain (iniparser_load (.defaultFirst [] [("n_init","500")]))) := by
  intro iniparser_load file
  have loads : file.Loads iniparser_load := IniFile.loads_stored (by decide +kernel)
  refine ⟨?_, ?_, ?_⟩
  · have loads' : (IniFile.defaultLast [("q","0.001")] [("n_init","500")]).Loads iniparser_load :=
      IniFile.loads_stored (by decide +kernel)
    have reordered := (sections_do_not_leak .plain iniparser_load file _ loads loads').1
    exact (reordered (by decide)).1
  · have loads' : (IniFile.defaultFirst [("q","0.001")] [("n_init","700")]).Loads iniparser_load :=
      IniFile.loads_stored (by decide +kernel)
    have local_keys := (sections_do_not_leak .plain iniparser_load file _ loads loads').2.1
    apply local_keys "mem" (by decide) rfl
    intro sec_name key apart
    simp [file,value_defaultFirst,apart.symm]
  · have loads' : (IniFile.defaultFirst [] [("n_init","500")]).Loads iniparser_load :=
      IniFile.loads_stored (by decide +kernel)
    have one_default := (sections_do_not_leak .plain iniparser_load file _ loads loads').2.2
    apply one_default "q" rfl
    intro sec_name key apart
    by_cases default : "default" = sec_name
    · have other : key ≠ "q" := by simpa [← default] using apart
      simp [file,value_defaultFirst,default,other]
    · simp [file,value_defaultFirst,default]

end BroSpotd
