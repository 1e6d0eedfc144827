import BroSpotd.Lines

/-! What `main` makes of its command line: four settings, each the last text given for it or its
default. Where the line is accepted, none of the four questions raises. -/
namespace BroSpotd

open Cola

structure Settings where
  ini_file : Text
  ip : Text
  port : Int32
  event : Text
  deriving DecidableEq, Repr

variable (real : Text → Option Double)

/-- The first half of `main`, up to the questions. -/
def settings (argv : List Text) : Except Error Settings :=
  match Parser.main.parse real argv with
  | (.error e, _) => .error e
  | (.ok (), parser) => do
    let ini_file ← parser.get_string "config".toList
    let ip ← parser.get_string "bro-ip".toList
    let port ← parser.get_integer "bro-port".toList
    let event ← parser.get_string "bro-event".toList
    return ⟨ini_file, ip, port, event⟩

/-- The texts given to an option, in order. -/
def textsOf (account : Account) (i : Nat) : List Text := (Cells.addressed i account.mentions).filterMap id

/-- The last text of each option, read as a number for the port. -/
def Settings.of (account : Account) : Settings where
  ini_file := ((textsOf account 0).getLast?).getD "/etc/bro-spotd/bro-spotd.ini".toList
  ip := ((textsOf account 1).getLast?).getD "127.0.0.1".toList
  port := (((textsOf account 2).filterMap (fun text => (from_string_integer text).toOption)).getLast?).getD 47760
  event := ((textsOf account 3).getLast?).getD "Stats::log_stats".toList

/-- A string option ends up with its last text. -/
theorem recorded_string (default : Text) (passed : Bool) (names : List Text) (delim : Char)
    (mentions : List (Option Text)) :
    ((⟨.STRING default, passed, names, delim⟩ : ParserOption).recorded real mentions).argument =
      .STRING (((mentions.filterMap id).getLast?).getD default) := by
  have readings : (⟨.STRING default, passed, names, delim⟩ : ParserOption).readings real mentions =
      (mentions.filterMap id).map .STRING := by
    simp only [ParserOption.readings, ParserOption.parse_arg, Except.toOption, List.map_filterMap]
    congr 1
    funext mention
    cases mention <;> rfl
  simp only [ParserOption.recorded, readings, List.getLast?_map]
  cases (mentions.filterMap id).getLast? <;> rfl

theorem recorded_integer (default : Int32) (passed : Bool) (names : List Text) (delim : Char)
    (mentions : List (Option Text)) :
    ((⟨.INTEGER default, passed, names, delim⟩ : ParserOption).recorded real mentions).argument =
      .INTEGER ((((mentions.filterMap id).filterMap (fun text => (from_string_integer text).toOption)).getLast?).getD
        default) := by
  have readings : (⟨.INTEGER default, passed, names, delim⟩ : ParserOption).readings real mentions =
      ((mentions.filterMap id).filterMap (fun text => (from_string_integer text).toOption)).map .INTEGER := by
    simp only [ParserOption.readings, ParserOption.parse_arg, List.filterMap_filterMap, List.map_filterMap]
    congr 1
    funext mention
    cases mention with
    | none => rfl
    | some text => cases read : from_string_integer text <;> simp [Except.map,Except.toOption,read]
  simp only [ParserOption.recorded, readings, List.getLast?_map]
  cases (((mentions.filterMap id).filterMap (fun text => (from_string_integer text).toOption))).getLast? <;> rfl

/-- A question about an option of the right type is answered with its value. -/
theorem get_found {T : Type} {member : Argument → Option T} {title : String} {p : Parser} {name : Text} {i : Nat}
    {o : ParserOption} {value : T} (parsed : p.parsed_ = true) (found : p.resolve name = some (i,o))
    (typed : member o.argument = some value) : p.get member title name = .ok value := by
  have must : ∀ func_name, p.must_be_parsed func_name = .ok () := by
    intro func_name
    simp [Parser.must_be_parsed,parsed]
  have option : p.get_option name = .ok (i,o) := by simp [Parser.get_option,found]
  have answer : p.as_ "parser::option::as" member title o = .ok value := by
    simp only [Parser.as_, must, typed]
    rfl
  simp only [Parser.get, must, option]
  exact answer

/-- An accepted line answers all four questions. -/
theorem settings_recorded {account : Account} {argv : List Text}
    (outcome : Outcome real Parser.main.signature (argv.drop 1) account none) :
    settings real argv = .ok (.of account) := by
  have parsed := parse_outcome real (p := .main) rfl outcome
  have resolved : ∀ name, (Parser.main.parsed real argv account none).resolve name =
      (Parser.main.resolve name).map (fun found =>
        (found.1, found.2.recorded real (Cells.addressed found.1 account.mentions))) :=
    resolve_apply real (p := { Parser.main with args_ := argv }) (textsRead_outcome real outcome)
  have text : ∀ name i default names, Parser.main.resolve name = some (i, ⟨.STRING default,false,names,','⟩) →
      (Parser.main.parsed real argv account none).get_string name =
        .ok (((textsOf account i).getLast?).getD default) := by
    intro name i default names declared
    have found := resolved name
    rw [declared] at found
    exact get_found rfl found (by simp only [recorded_string]; rfl)
  have number : ∀ name i default names, Parser.main.resolve name = some (i, ⟨.INTEGER default,false,names,','⟩) →
      (Parser.main.parsed real argv account none).get_integer name =
        .ok ((((textsOf account i).filterMap (fun text => (from_string_integer text).toOption)).getLast?).getD
          default) := by
    intro name i default names declared
    have found := resolved name
    rw [declared] at found
    exact get_found rfl found (by simp only [recorded_integer]; rfl)
  simp only [settings, parsed, ended]
  rw [text "config".toList 0 "/etc/bro-spotd/bro-spotd.ini".toList _ rfl, text "bro-ip".toList 1 "127.0.0.1".toList _ rfl,
    number "bro-port".toList 2 47760 _ rfl, text "bro-event".toList 3 "Stats::log_stats".toList _ rfl]
  rfl

theorem settings_outcome {argv : List Text} {account : Account} {result : Option Error}
    (outcome : Outcome real Parser.main.signature (argv.drop 1) account result) :
    settings real argv = result.elim (.ok (.of account)) .error := by
  cases result with
  | none => exact settings_recorded real outcome
  | some e => simp only [settings, parse_outcome real (p := .main) rfl outcome, ended, Option.elim_some]

theorem settings_ok_iff (argv : List Text) (s : Settings) :
    settings real argv = .ok s ↔ ∃ line : Line, line.Valid real Parser.main.signature ∧
      argv.drop 1 = line.spell ∧ s = .of (line.account Parser.main.signature) := by
  constructor
  · intro answered
    obtain ⟨account,result,outcome⟩ := outcome_exists real Parser.main.signature (argv.drop 1)
    rw [settings_outcome real outcome] at answered
    cases result with
    | none =>
      obtain ⟨line,valid,spelled,rfl⟩ := line_of_outcome real outcome
      exact ⟨line, valid, spelled, (Except.ok.inj answered).symm⟩
    | some e => cases answered
  · rintro ⟨line,valid,spelled,rfl⟩
    have outcome := outcome_line real Parser.main.signature valid
    exact settings_outcome real (spelled ▸ outcome)

theorem settings_error_iff (argv : List Text) (e : Error) : settings real argv = .error e ↔
    ∃ account, StopsAt real Parser.main.signature (argv.drop 1) e account := by
  constructor
  · intro raised
    obtain ⟨account,result,outcome⟩ := outcome_exists real Parser.main.signature (argv.drop 1)
    rw [settings_outcome real outcome] at raised
    cases result with
    | none => cases raised
    | some e' =>
      obtain rfl := Except.error.inj raised
      exact ⟨account, (outcome_refused_iff real _ _ e' account).mp outcome⟩
  · rintro ⟨account,stopped⟩
    exact settings_outcome real ((outcome_refused_iff real _ _ e account).mpr stopped)

/-- Every command line: the settings are the last texts of an accepted line, and what raises is
the parse, at the argument that it refuses. -/
theorem settings_of_command_line (argv : List Text) :
    (∀ s, settings real argv = .ok s ↔ ∃ line : Line, line.Valid real Parser.main.signature ∧
      argv.drop 1 = line.spell ∧ s = .of (line.account Parser.main.signature)) ∧
    ∀ e, settings real argv = .error e ↔ ∃ account, StopsAt real Parser.main.signature (argv.drop 1) e account :=
  ⟨settings_ok_iff real argv, settings_error_iff real argv⟩

/-- The last port counts, the rest keep their defaults. -/
example : settings (fun _ => none) ["bro-spotd".toList, "-p1".toList, "--bro-port=2".toList] =
    .ok ⟨"/etc/bro-spotd/bro-spotd.ini".toList, "127.0.0.1".toList, 2, "Stats::log_stats".toList⟩ := by decide

end BroSpotd
