import BroSpotd.Daemon
import BroSpotd.Library.Layers

/-! The ini constructor of `Dispotcher`. iniparser is outside the repository: a dictionary is
what its getters show of a loaded file, the sections one by one and the text under each
"section:key", and the conversions of a text are parameters. -/
namespace BroSpotd

/-- `strtol` and `atof` as iniparser applies them to a value. -/
structure IniParser where
  strtol : String → Int32
  atof : String → Double

/-- What `iniparser_load` leaves: sections of distinct names, and the texts under the keys. -/
structure Dictionary where
  sections : List String
  text : String → Option String
  distinct : sections.Nodup

namespace Dictionary

variable (p : IniParser) (ini : Dictionary)

def iniparser_getnsec : Nat := ini.sections.length
def iniparser_getsecname (n : Nat) : String := (ini.sections[n]?).getD ""

def iniparser_getint (key : String) (notfound : Int32) : Int32 :=
  match ini.text key with
  | some value => p.strtol value
  | none => notfound

def iniparser_getdouble (key : String) (notfound : Double) : Double :=
  match ini.text key with
  | some value => p.atof value
  | none => notfound

/-- A boolean is recognised by its first letter. -/
def boolean (value : String) : Option Bool :=
  match value.toList.head? with
  | some c =>
    if c ∈ ['y','Y','1','t','T'] then some true
    else if c ∈ ['n','N','0','f','F'] then some false
    else none
  | none => none

def iniparser_getboolean (key : String) (notfound : Int32) : Int32 :=
  match (ini.text key).bind boolean with
  | some true => 1
  | some false => 0
  | none => notfound

end Dictionary

def INIT_PARSER_NOKEY : Int32 := -1
/-- The sentinel where a double is compared with it or passed for it. -/
def INIT_PARSER_NOKEY_double : Double := ⟨0xBFF0000000000000⟩

variable (p : IniParser) (ini : Dictionary)

def get_default_config : SpotConfig :=
  let q := ini.iniparser_getdouble p "default:q" INIT_PARSER_NOKEY_double
  let bounded := ini.iniparser_getboolean "default:bounded" INIT_PARSER_NOKEY
  let max_excess := ini.iniparser_getint p "default:max_excess" INIT_PARSER_NOKEY
  let up := ini.iniparser_getboolean "default:up" INIT_PARSER_NOKEY
  let down := ini.iniparser_getboolean "default:down" INIT_PARSER_NOKEY
  let n_init := ini.iniparser_getint p "default:n_init" INIT_PARSER_NOKEY
  let level := ini.iniparser_getdouble p "default:level" INIT_PARSER_NOKEY_double
  { q := if !q.ieeeEq INIT_PARSER_NOKEY_double then q else ⟨0x3F1A36E2EB1C432D⟩ -- 1e-4
    bounded := if bounded ≠ INIT_PARSER_NOKEY then decide (bounded = 1) else true
    max_excess := if max_excess ≠ INIT_PARSER_NOKEY then max_excess else 200
    alert := true
    up := if up ≠ INIT_PARSER_NOKEY then decide (up = 1) else true
    down := if down ≠ INIT_PARSER_NOKEY then decide (down = 1) else false
    n_init := if n_init ≠ INIT_PARSER_NOKEY then n_init else 1000
    level := if !level.ieeeEq INIT_PARSER_NOKEY_double then level else ⟨0x3FEFAE147AE147AE⟩ } -- 0.99

def get_config (feature : String) (default_config : SpotConfig) : SpotConfig :=
  let q := ini.iniparser_getdouble p (feature ++ ":q") INIT_PARSER_NOKEY_double
  let bounded := ini.iniparser_getboolean (feature ++ ":bounded") INIT_PARSER_NOKEY
  let max_excess := ini.iniparser_getint p (feature ++ ":max_excess") INIT_PARSER_NOKEY
  let up := ini.iniparser_getboolean (feature ++ ":up") INIT_PARSER_NOKEY
  let down := ini.iniparser_getboolean (feature ++ ":down") INIT_PARSER_NOKEY
  let n_init := ini.iniparser_getint p (feature ++ ":n_init") INIT_PARSER_NOKEY
  let level := ini.iniparser_getdouble p (feature ++ ":level") INIT_PARSER_NOKEY_double
  { q := if !q.ieeeEq INIT_PARSER_NOKEY_double then q else default_config.q
    bounded := if bounded ≠ INIT_PARSER_NOKEY then decide (bounded = 1) else default_config.bounded
    max_excess := if max_excess ≠ INIT_PARSER_NOKEY then max_excess else default_config.max_excess
    alert := true
    up := if up ≠ INIT_PARSER_NOKEY then decide (up = 1) else default_config.up
    down := if down ≠ INIT_PARSER_NOKEY then decide (down = 1) else default_config.down
    n_init := if n_init ≠ INIT_PARSER_NOKEY then n_init else default_config.n_init
    level := if !level.ieeeEq INIT_PARSER_NOKEY_double then level else default_config.level }

/-- The type under [default], read once before the loop over the sections. -/
def default_type : Int32 :=
  let type := ini.iniparser_getint p "default:bro_type" INIT_PARSER_NOKEY
  if type = INIT_PARSER_NOKEY then BRO_TYPE_DOUBLE else type

/-- One turn of the constructor's loop, for the section `sec_name`. -/
def loadSection (sec_name : String) : Option Entry :=
  if sec_name ≠ "default" then
    let type := ini.iniparser_getint p (sec_name ++ ":bro_type") INIT_PARSER_NOKEY
    some ⟨sec_name, if type = INIT_PARSER_NOKEY then default_type p ini else type,
      get_config p ini sec_name (get_default_config p ini)⟩
  else none

/-- The arguments of the `emplace_back` calls of the ini constructor, in order. -/
def loadEntries : List Entry :=
  (List.range ini.iniparser_getnsec).filterMap (fun i => loadSection p ini (ini.iniparser_getsecname i))

/-- `iniparser_load` yields none for a file it cannot load. -/
def Dispotcher.load {S : Type} (spot : Spot S) (loaded : Option Dictionary) : Except Exn (Dispotcher S) :=
  match loaded with
  | none => .error (ios_base_failure "The config file has not been loaded")
  | some ini => .ok (.ofFeatures ((loadEntries p ini).map (Entry.build spot)))

theorem loadEntries_eq : loadEntries p ini = ini.sections.filterMap (loadSection p ini) := by
  have walk : ∀ names : List String,
      (List.range names.length).filterMap (fun i => loadSection p ini ((names[i]?).getD "")) =
        names.filterMap (loadSection p ini) := by
    intro names
    induction names with
    | nil => rfl
    | cons name rest ih =>
      rw [List.length_cons, List.range_succ_eq_map, List.filterMap_cons, List.filterMap_map,
        List.filterMap_cons]
      simp only [Function.comp_def, List.getElem?_cons_succ, List.getElem?_cons_zero, Option.getD_some, ih]
  exact walk ini.sections

theorem loadSection_name {sec_name : String} {e : Entry} (loads : loadSection p ini sec_name = some e) :
    e.name = sec_name := by
  simp only [loadSection] at loads
  split at loads
  · cases loads; rfl
  · cases loads

/-- One entry for each section but [default], in file order. -/
theorem loadEntries_names :
    (loadEntries p ini).map Entry.name = ini.sections.filter (fun sec_name => sec_name ≠ "default") := by
  rw [loadEntries_eq]
  induction ini.sections with
  | nil => rfl
  | cons name rest ih =>
    by_cases default : name = "default"
    · simp [loadSection,default,ih]
    · simp [loadSection,default,ih]

/-- iniparser keeps sections distinct, so the features have distinct names. -/
theorem loadEntries_distinct : ((loadEntries p ini).map Entry.name).Nodup := by
  rw [loadEntries_names]
  exact ini.distinct.filter _

/-- What a section writes for a key, where the text is well formed for its type. -/
def written {α : Type} (parse : String → Option α) (sec_name key : String) : Option α :=
  (ini.text (sec_name ++ ":" ++ key)).bind parse

/-- The layered value of a key: the section's own, else the default's, else the built-in. -/
def layered {α : Type} (parse : String → Option α) (sec_name key : String) (fallback : α) : α :=
  (written ini parse sec_name key).getD ((written ini parse "default" key).getD fallback)

def IniParser.int (value : String) : Option Int32 := some (p.strtol value)
def IniParser.double (value : String) : Option Double := some (p.atof value)

theorem key_split (sec_name key : String) : sec_name ++ (":" ++ key) = sec_name ++ ":" ++ key :=
  (String.append_assoc ..).symm

/-- An int key asked with the sentinel is one layer of a sentinel lookup. -/
theorem int_layer (key : String) (next : Int32) :
    (if ini.iniparser_getint p key INIT_PARSER_NOKEY ≠ INIT_PARSER_NOKEY
      then ini.iniparser_getint p key INIT_PARSER_NOKEY else next) =
      Layers.resolve INIT_PARSER_NOKEY ((ini.text key).bind p.int) next := by
  cases stored : ini.text key with
  | none => simp only [Dictionary.iniparser_getint, stored, Option.bind_none]; rfl
  | some value => simp only [Dictionary.iniparser_getint, stored, Option.bind_some]; rfl

theorem double_layer (key : String) (next : Double) :
    (if (!(ini.iniparser_getdouble p key INIT_PARSER_NOKEY_double).ieeeEq INIT_PARSER_NOKEY_double) = true
      then ini.iniparser_getdouble p key INIT_PARSER_NOKEY_double else next) =
      Layers.resolve INIT_PARSER_NOKEY_double ((ini.text key).bind p.double) next := by
  have differs : ∀ v : Double, (!v.ieeeEq INIT_PARSER_NOKEY_double) = true ↔ v ≠ INIT_PARSER_NOKEY_double := by
    intro v
    rw [Bool.not_eq_true', ← Bool.not_eq_true, Binary64.ieeeEq_iff_of_ordinary v _ (by decide) (by decide)]
  simp only [differs]
  cases stored : ini.text key with
  | none => simp only [Dictionary.iniparser_getdouble, stored, Option.bind_none]; rfl
  | some value => simp only [Dictionary.iniparser_getdouble, stored, Option.bind_some]; rfl

/-- A boolean key answers 1 or 0 where it is written, so its sentinel never collides. -/
theorem boolean_layer (key : String) (next : Bool) :
    (if ini.iniparser_getboolean key INIT_PARSER_NOKEY ≠ INIT_PARSER_NOKEY
      then decide (ini.iniparser_getboolean key INIT_PARSER_NOKEY = 1) else next) =
      ((ini.text key).bind Dictionary.boolean).getD next := by
  cases stored : (ini.text key).bind Dictionary.boolean with
  | none => simp [Dictionary.iniparser_getboolean,stored]
  | some value => cases value <;> simp [Dictionary.iniparser_getboolean,stored,INIT_PARSER_NOKEY]

/-- The built-in last resorts. -/
def fallback_config : SpotConfig where
  q := ⟨0x3F1A36E2EB1C432D⟩
  bounded := true
  max_excess := 200
  alert := true
  up := true
  down := false
  n_init := 1000
  level := ⟨0x3FEFAE147AE147AE⟩

/-- Each key of a feature's config, as the two sentinel lookups the constructor makes. -/
theorem get_config_layers (sec_name : String) :
    let config := get_config p ini sec_name (get_default_config p ini)
    let double := fun key fallback => Layers.resolve INIT_PARSER_NOKEY_double
      (written ini p.double sec_name key)
      (Layers.resolve INIT_PARSER_NOKEY_double (written ini p.double "default" key) fallback)
    let int := fun key fallback => Layers.resolve INIT_PARSER_NOKEY (written ini p.int sec_name key)
      (Layers.resolve INIT_PARSER_NOKEY (written ini p.int "default" key) fallback)
    let boolean := layered ini Dictionary.boolean sec_name
    config = {
      q := double "q" fallback_config.q
      bounded := boolean "bounded" fallback_config.bounded
      max_excess := int "max_excess" fallback_config.max_excess
      alert := true
      up := boolean "up" fallback_config.up
      down := boolean "down" fallback_config.down
      n_init := int "n_init" fallback_config.n_init
      level := double "level" fallback_config.level } := by
  simp only [get_config, get_default_config, int_layer, double_layer, boolean_layer, layered, written,
    fallback_config, ← key_split]
  rfl

theorem loadSection_config {sec_name : String} {e : Entry} (loads : loadSection p ini sec_name = some e) :
    e.config = get_config p ini sec_name (get_default_config p ini) := by
  simp only [loadSection] at loads
  split at loads
  · cases loads; rfl
  · cases loads

theorem loadSection_type {sec_name : String} {e : Entry} (loads : loadSection p ini sec_name = some e) :
    e.bro_type = Layers.resolve INIT_PARSER_NOKEY (written ini p.int sec_name "bro_type")
      (Layers.resolve INIT_PARSER_NOKEY (written ini p.int "default" "bro_type") BRO_TYPE_DOUBLE) := by
  have turned : ∀ (v next : Int32), (if v = INIT_PARSER_NOKEY then next else v) =
      if v ≠ INIT_PARSER_NOKEY then v else next := by
    intro v next
    by_cases absent : v = INIT_PARSER_NOKEY <;> simp [absent]
  simp only [loadSection] at loads
  split at loads
  · cases loads
    simp only [default_type, turned, int_layer, written, ← key_split]
    rfl
  · cases loads

/-- Every key of every feature has its layered value, with one exception: where that value
is the sentinel -1, which a numeric key can be given, the constructor takes it for absence.
The boolean keys are always layered. -/
theorem layered_configuration (sec_name : String) (present : sec_name ∈ ini.sections)
    (other : sec_name ≠ "default") :
    ∃ e ∈ loadEntries p ini, e.name = sec_name ∧
      (e.config.q = layered ini p.double sec_name "q" fallback_config.q ↔
        layered ini p.double sec_name "q" fallback_config.q ≠ INIT_PARSER_NOKEY_double) ∧
      e.config.bounded = layered ini Dictionary.boolean sec_name "bounded" fallback_config.bounded ∧
      (e.config.max_excess = layered ini p.int sec_name "max_excess" fallback_config.max_excess ↔
        layered ini p.int sec_name "max_excess" fallback_config.max_excess ≠ INIT_PARSER_NOKEY) ∧
      e.config.up = layered ini Dictionary.boolean sec_name "up" fallback_config.up ∧
      e.config.down = layered ini Dictionary.boolean sec_name "down" fallback_config.down ∧
      (e.config.n_init = layered ini p.int sec_name "n_init" fallback_config.n_init ↔
        layered ini p.int sec_name "n_init" fallback_config.n_init ≠ INIT_PARSER_NOKEY) ∧
      (e.config.level = layered ini p.double sec_name "level" fallback_config.level ↔
        layered ini p.double sec_name "level" fallback_config.level ≠ INIT_PARSER_NOKEY_double) ∧
      (e.bro_type = layered ini p.int sec_name "bro_type" BRO_TYPE_DOUBLE ↔
        layered ini p.int sec_name "bro_type" BRO_TYPE_DOUBLE ≠ INIT_PARSER_NOKEY) := by
  obtain ⟨e,loads⟩ : ∃ e, loadSection p ini sec_name = some e := ⟨_, if_pos other⟩
  have config := loadSection_config p ini loads
  have member : e ∈ loadEntries p ini := by
    rw [loadEntries_eq]
    exact List.mem_filterMap.mpr ⟨sec_name,present,loads⟩
  rw [get_config_layers] at config
  refine ⟨e, member, loadSection_name p ini loads, ?_⟩
  rw [config, loadSection_type p ini loads]
  exact ⟨Layers.resolve_two_iff (by decide) _ _, rfl, Layers.resolve_two_iff (by decide) _ _, rfl, rfl,
    Layers.resolve_two_iff (by decide) _ _, Layers.resolve_two_iff (by decide) _ _,
    Layers.resolve_two_iff (by decide) _ _⟩

/-- Decimal texts. `atof` is given on the texts below; a text it cannot read is 0. -/
def IniParser.plain : IniParser where
  strtol := fun value =>
    let digits : List Char → Nat := List.foldl (fun n c => 10*n + (c.toNat - 48)) 0
    match value.toList with
    | '-' :: rest => -.ofNat (digits rest)
    | rest => .ofNat (digits rest)
  atof := fun value =>
    if value = "0.001" then ⟨0x3F50624DD2F1A9FC⟩
    else if value = "-1" then ⟨0xBFF0000000000000⟩
    else ⟨0⟩

/-- [default] with q and max_excess, [mem] with bounded and n_init. -/
def Dictionary.twoLayers : Dictionary where
  sections := ["default", "mem"]
  text := fun key => [("default:q","0.001"), ("default:max_excess","300"), ("mem:bounded","no"),
    ("mem:n_init","500")].lookup key
  distinct := by decide

/-- [mem] with one line. -/
def Dictionary.memWith (line : String × String) : Dictionary where
  sections := ["mem"]
  text := fun key => [line].lookup key
  distinct := List.nodup_singleton "mem"

/-- [mem] with an explicit max_excess of -1. -/
def Dictionary.explicitSentinel : Dictionary := .memWith ("mem:max_excess","-1")

theorem mem_is_layered :
    ∃ e ∈ loadEntries .plain .twoLayers, e.name = "mem" ∧ e.config.q = ⟨0x3F50624DD2F1A9FC⟩ ∧
      e.config.bounded = false ∧ e.config.max_excess = 300 ∧ e.config.n_init = 500 := by
  obtain ⟨e,member,named,q,bounded,max_excess,_,_,n_init,_⟩ :=
    layered_configuration .plain .twoLayers "mem" (by decide) (by decide)
  exact ⟨e, member, named, (q.mpr (by decide)).trans (by decide), bounded.trans (by decide),
    (max_excess.mpr (by decide)).trans (by decide), (n_init.mpr (by decide)).trans (by decide)⟩

/-- An explicit `max_excess = -1` is replaced by the built-in 200. -/
theorem explicit_minus_one_replaced :
    layered .explicitSentinel IniParser.plain.int "mem" "max_excess" fallback_config.max_excess = -1 ∧
    (loadEntries .plain .explicitSentinel).map (fun e => (e.name,e.config.max_excess)) = [("mem",200)] := by
  decide

end BroSpotd
