import BroSpotd.Lines

/-! A parser used more than once. `reset` keeps the values: whatever is parsed and reset, every
value is as if all the lines that were read had been one. -/
namespace BroSpotd.Cola

variable (real : Text → Option Double)

inductive Use where
  | parse (argv : List Text)
  | reset

namespace Use

def next (p : Parser) : Use → Parser
  | .parse argv => (p.parse real argv).2
  | .reset => p.reset

def run (p : Parser) (uses : List Use) : Parser := Runs.run (next real) p uses

end Use

/-- The account of everything that a run of uses reads, refused lines up to where they stop. -/
inductive Session : Parser → List Use → Account → Prop where
  | nil {p} : Session p [] .empty
  | reset {p rest account} : Session (Parser.reset p) rest account → Session p (.reset :: rest) account
  | again {p argv rest account} : Parser.parsed_ p = true → Session p rest account →
      Session p (.parse argv :: rest) account
  | parse {p argv rest first result later} : Parser.parsed_ p = false →
      Outcome real (Parser.signature p) (List.drop 1 argv) first result →
      Session (Parser.parse real argv p).2 rest later → Session p (.parse argv :: rest) (first.append later)

theorem session_exists (p : Parser) (uses : List Use) : ∃ account, Session real p uses account := by
  induction uses generalizing p with
  | nil => exact ⟨_, .nil⟩
  | cons use rest ih =>
    cases use with
    | reset =>
      obtain ⟨account,later⟩ := ih p.reset
      exact ⟨account, .reset later⟩
    | parse argv =>
      cases unparsed : p.parsed_ with
      | true =>
        obtain ⟨account,later⟩ := ih p
        exact ⟨account, .again unparsed later⟩
      | false =>
        obtain ⟨first,result,outcome⟩ := outcome_exists real p.signature (argv.drop 1)
        obtain ⟨account,later⟩ := ih (p.parse real argv).2
        exact ⟨_, .parse unparsed outcome later⟩

/-- An option but for whether it was passed. -/
def ParserOption.cleared (o : ParserOption) : ParserOption := { o with is_passed_ := false }

theorem recorded_parse_arg (o : ParserOption) (mentions : List (Option Text)) (text : Text) :
    (o.recorded real mentions).parse_arg real text = o.parse_arg real text := by
  have blank : (o.recorded real mentions).argument.blank = o.argument.blank := by
    simp only [ParserOption.recorded]
    cases last : (o.readings real mentions).getLast? with
    | none => rfl
    | some a =>
      obtain ⟨mention,_,read⟩ := List.mem_filterMap.mp (List.mem_of_getLast? last)
      obtain ⟨text,_,read⟩ := Option.bind_eq_some_iff.mp read
      cases result : o.parse_arg real text with
      | error e => simp [result,Except.toOption] at read
      | ok a' =>
        obtain rfl : a' = a := by simpa [result,Except.toOption] using read
        exact parse_arg_blank real result
  have shape : (o.recorded real mentions).shape = o.shape := by simp only [ParserOption.shape, blank]; rfl
  rw [← shape_parse_arg, shape, shape_parse_arg]

theorem recorded_append (o : ParserOption) (first second : List (Option Text)) :
    (o.recorded real first).recorded real second = o.recorded real (first ++ second) := by
  have readings : (o.recorded real first).readings real second = o.readings real second := by
    simp only [ParserOption.readings, recorded_parse_arg]
  have both : o.readings real (first ++ second) = o.readings real first ++ o.readings real second :=
    List.filterMap_append
  apply ParserOption.ext
  · have last : (((o.recorded real first).readings real second).getLast?).getD (((o.readings real first).getLast?).getD
        o.argument) = ((o.readings real (first ++ second)).getLast?).getD o.argument := by
      rw [readings, both, List.getLast?_append]
      cases (o.readings real second).getLast? <;> rfl
    exact last
  · cases first <;> cases second <;> simp [ParserOption.recorded]
  · rfl
  · rfl

theorem cleared_recorded (o : ParserOption) (mentions : List (Option Text)) :
    (o.cleared.recorded real mentions).cleared = (o.recorded real mentions).cleared := by
  obtain ⟨a,passed,names,delim⟩ := o
  cases a <;> rfl

theorem resolve_reset (p : Parser) (name : Text) :
    p.reset.resolve name = (p.resolve name).map (fun found => (found.1, found.2.cleared)) := by
  simp only [Parser.resolve, Parser.reset, List.getElem?_map]
  cases Registry.find (make_arg name) p.lookup_ with
  | none => rfl
  | some i => simp only [Option.bind_some, Option.map_map]; rfl

theorem resolve_parse {p : Parser} (unparsed : p.parsed_ = false) {argv : List Text} {account : Account}
    {result : Option Error} (outcome : Outcome real p.signature (argv.drop 1) account result) (name : Text) :
    (p.parse real argv).2.resolve name = (p.resolve name).map (fun found =>
      (found.1, found.2.recorded real (Cells.addressed found.1 account.mentions))) := by
  rw [parse_outcome real unparsed outcome]
  exact resolve_apply real (p := { p with args_ := argv }) (textsRead_outcome real outcome) name

/-- One use after another reads like one line. -/
theorem session_values {p : Parser} {uses : List Use} {account : Account} (session : Session real p uses account) :
    (∀ name, ((Use.run real p uses).resolve name).map (fun found => (found.1, found.2.cleared)) =
      (p.resolve name).map (fun found =>
        (found.1, (found.2.recorded real (Cells.addressed found.1 account.mentions)).cleared))) ∧
    (Use.run real p uses).exists_undefined_options = (p.exists_undefined_ || account.undefined) := by
  induction session with
  | @nil p =>
    refine ⟨fun name => ?_, by simp [Use.run,Parser.exists_undefined_options,Account.empty]⟩
    simp [Use.run,Account.empty,Cells.addressed,ParserOption.recorded,ParserOption.readings,ParserOption.cleared]
  | @reset p rest account later ih =>
    refine ⟨fun name => (ih.1 name).trans ?_, ih.2⟩
    rw [resolve_reset, Option.map_map]
    simp only [Function.comp_def, cleared_recorded]
  | @again p argv rest account parsed later ih =>
    have still : (p.parse real argv).2 = p := by simp [Parser.parse,parsed]
    have turned : Use.run real p (.parse argv :: rest) = Use.run real (p.parse real argv).2 rest := rfl
    rw [turned, still]
    exact ih
  | @parse p argv rest first result later unparsed outcome rest_session ih =>
    constructor
    · intro name
      refine (ih.1 name).trans ?_
      rw [resolve_parse real unparsed outcome, Option.map_map]
      simp only [Function.comp_def, recorded_append, Account.append, Cells.addressed_append]
    · refine ih.2.trans ?_
      rw [parse_outcome real unparsed outcome]
      exact Bool.or_assoc ..

/-- Any run of parses and resets: there is an account of all that was read, and every value is
what this account gives it, and the unknown options of every line stay known about. -/
theorem reset_keeps_values (p : Parser) (uses : List Use) : ∃ account, Session real p uses account ∧
    (∀ name, ((Use.run real p uses).resolve name).map (fun found => (found.1, found.2.cleared)) =
      (p.resolve name).map (fun found =>
        (found.1, (found.2.recorded real (Cells.addressed found.1 account.mentions)).cleared))) ∧
    (Use.run real p uses).exists_undefined_options = (p.exists_undefined_ || account.undefined) := by
  obtain ⟨account,session⟩ := session_exists real p uses
  exact ⟨account, session, session_values real session⟩

/-- The port of the first line is still there after a reset and a second line without one. -/
example : ((Use.run (fun _ => none) .main [.parse ["bro-spotd".toList, "-p12".toList], .reset,
    .parse ["bro-spotd".toList]]).get_integer "bro-port".toList) = .ok 12 := by decide

end BroSpotd.Cola
