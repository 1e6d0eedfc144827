import BroSpotd.Cola
import BroSpotd.Library.Runs

/-! Declaring options. A call that raises leaves the parser as it was; over any run of calls a
name belongs to the option that took it first, and keeps leading to it. -/
namespace BroSpotd.Cola

inductive Declaration where
  | define (name : Text)
  | define_char (name : Char)
  | alias_ (i : Nat) (name : Text)
  | with_argument (func_name : String) (read : ParserOption → Except Error Argument) (i : Nat)
  | delimiter (d : Char) (i : Nat)

namespace Declaration

def call (p : Parser) : Declaration → Except Error Unit × Parser
  | .define name => ((p.define name).1.map (fun _ => ()), (p.define name).2)
  | .define_char name => ((p.define_char name).1.map (fun _ => ()), (p.define_char name).2)
  | .alias_ i name => p.alias_ i name
  | .with_argument func_name read i => p.with_argument func_name read i
  | .delimiter d i => p.delimiter d i

def next (p : Parser) (d : Declaration) : Parser := (d.call p).2

def run (p : Parser) (declarations : List Declaration) : Parser := Runs.run next p declarations

/-- The name that a call takes, where it returns, and the option that takes it. -/
def takes (p : Parser) (d : Declaration) : List (Text × Nat) :=
  match (d.call p).1 with
  | .error _ => []
  | .ok () =>
    match d with
    | .define name => [(make_arg name, p.options_.length)]
    | .define_char name => [(make_arg [name], p.options_.length)]
    | .alias_ i name => if i < p.options_.length then [(make_arg name, i)] else []
    | _ => []

end Declaration

namespace Parser

/-- `define` returns only where it has added an option. -/
theorem define_cases (name : Text) (p : Parser) : (∃ e, p.define name = (.error e, p)) ∨
    ∃ fresh, p.define name = (.ok p.options_.length, p.add (make_arg name) fresh) := by
  unfold define
  split
  · exact .inl ⟨_, rfl⟩
  · split
    · exact .inl ⟨_, rfl⟩
    · next fresh =>
      by_cases empty : name = []
      · exact .inl ⟨_, if_pos empty⟩
      · exact .inr ⟨fresh, if_neg empty⟩

theorem define_char_cases (name : Char) (p : Parser) : (∃ e, p.define_char name = (.error e, p)) ∨
    ∃ fresh, p.define_char name = (.ok p.options_.length, p.add (make_arg [name]) fresh) := by
  unfold define_char
  split
  · exact .inl ⟨_, rfl⟩
  · split
    · exact .inl ⟨_, rfl⟩
    · next fresh =>
      by_cases blank : name = ' '
      · exact .inl ⟨_, if_pos blank⟩
      · exact .inr ⟨fresh, if_neg blank⟩

theorem declare_cases (func_name : String) (i : Nat) (p : Parser)
    (change : (o : ParserOption) → p.options_[i]? = some o → Except Error Parser) :
    (∃ e, p.declare func_name i change = (.error e, p)) ∨
    p.options_[i]? = none ∧ p.declare func_name i change = (.ok (), p) ∨
    ∃ o here q, change o here = .ok q ∧ p.declare func_name i change = (.ok (), q) := by
  unfold declare
  split
  · exact .inl ⟨_, rfl⟩
  · split
    · next nowhere => exact .inr (.inl ⟨nowhere, rfl⟩)
    · next o here =>
      cases changed : change o here with
      | error e => exact .inl ⟨e, rfl⟩
      | ok q => exact .inr (.inr ⟨o, here, q, changed, rfl⟩)

end Parser

namespace Declaration

/-- A call that raises leaves the parser as it was. -/
theorem call_error {p : Parser} {d : Declaration} {e : Error} (raised : (d.call p).1 = .error e) : (d.call p).2 = p := by
  have declared : ∀ func_name i change, (Parser.declare func_name i p change).1 = .error e →
      (Parser.declare func_name i p change).2 = p := by
    intro func_name i change raised
    rcases p.declare_cases func_name i change with ⟨_,same⟩ | ⟨_,same⟩ | ⟨_,_,_,_,same⟩
    · rw [same]
    · rw [same]
    · rw [same] at raised; cases raised
  cases d with
  | define name =>
    rcases p.define_cases name with ⟨_,same⟩ | ⟨_,same⟩
    · simp [call,same]
    · simp [call,same,Except.map] at raised
  | define_char name =>
    rcases p.define_char_cases name with ⟨_,same⟩ | ⟨_,same⟩
    · simp [call,same]
    · simp [call,same,Except.map] at raised
  | alias_ i name => exact declared _ _ _ raised
  | with_argument func_name read i => exact declared _ _ _ raised
  | delimiter d i => exact declared _ _ _ raised

/-- A call adds the name that it takes to the table, unless the name is there. -/
theorem find_next (p : Parser) (d : Declaration) (arg : Text) : Registry.find arg (d.next p).lookup_ =
    (Registry.find arg p.lookup_).or (Registry.find arg (d.takes p)) := by
  have entered : ∀ name i, Registry.find arg (Registry.enter name i p.lookup_) =
      (Registry.find arg p.lookup_).or (Registry.find arg [(name,i)]) := by
    intro name i
    rw [Registry.find_enter]
    congr 1
    simp [Registry.find,Keyed.lookup_entry]
  cases raised : (d.call p).1 with
  | error e => rw [next, call_error raised]; simp [takes,raised]
  | ok =>
    have kept : ∀ lookup, lookup = p.lookup_ → Registry.find arg lookup =
        (Registry.find arg p.lookup_).or (Registry.find arg []) := by
      rintro _ rfl
      simp
    cases d with
    | define name =>
      rcases p.define_cases name with ⟨_,same⟩ | ⟨_,same⟩
      · simp [call,same,Except.map] at raised
      · simpa [next,takes,raised,call,same,Except.map,Parser.add] using entered _ _
    | define_char name =>
      rcases p.define_char_cases name with ⟨_,same⟩ | ⟨_,same⟩
      · simp [call,same,Except.map] at raised
      · simpa [next,takes,raised,call,same,Except.map,Parser.add] using entered _ _
    | alias_ i name =>
      simp only [takes, raised]
      simp only [next, call, Parser.alias_] at raised ⊢
      rcases p.declare_cases "parser::option::alias" i _ with ⟨_,same⟩ | ⟨nowhere,same⟩ | ⟨o,here,q,changed,same⟩
      · rw [same] at raised; cases raised
      · rw [same, if_neg (by simpa using nowhere)]
        exact kept _ rfl
      · rw [same, if_pos (List.getElem?_eq_some_iff.mp here).1]
        split at changed
        · cases changed
        · cases changed
          exact entered _ _
    | with_argument func_name read i =>
      simp only [takes, raised]
      simp only [next, call, Parser.with_argument] at raised ⊢
      rcases p.declare_cases func_name i _ with ⟨_,same⟩ | ⟨_,same⟩ | ⟨o,here,q,changed,same⟩
      · rw [same] at raised; cases raised
      · rw [same]; exact kept _ rfl
      · rw [same]
        split at changed
        · cases changed
        · cases default : read o <;> rw [default] at changed <;> cases changed
          exact kept _ rfl
    | delimiter c i =>
      simp only [takes, raised]
      simp only [next, call, Parser.delimiter] at raised ⊢
      rcases p.declare_cases "parser::option::delimiter" i _ with ⟨_,same⟩ | ⟨_,same⟩ | ⟨o,here,q,changed,same⟩
      · rw [same] at raised; cases raised
      · rw [same]; exact kept _ rfl
      · rw [same]; cases changed; exact kept _ rfl

/-- What the table of a run knows: the names of the start, then the first taker of each. -/
theorem find_run (p : Parser) (declarations : List Declaration) (arg : Text) :
    Registry.find arg (run p declarations).lookup_ =
      (Registry.find arg p.lookup_).or (Registry.find arg (Runs.output next takes p declarations)) := by
  induction declarations generalizing p with
  | nil => simp [run,Runs.output]
  | cons d rest ih =>
    have turned : run p (d :: rest) = run (d.next p) rest := rfl
    rw [turned, ih, find_next, Option.or_assoc, Runs.output]
    congr 1
    simp only [Registry.find, List.lookup_append]

end Declaration

/-- Any run of declarations, failing calls included: a name leads to the option that took it
first, an option answers to the first of its names, lists none twice, and every name that it
lists leads somewhere. -/
theorem names_lead_to_first_taker (declarations : List Declaration) :
    let p := Declaration.run .empty declarations
    (∀ name, Registry.find (make_arg name) p.lookup_ =
      Registry.find (make_arg name) (Runs.output Declaration.next Declaration.takes .empty declarations)) ∧
    ∀ (i : Nat) o, p.options_[i]? = some o →
      (∃ arg rest, o.names_ = arg :: rest ∧ Registry.find arg p.lookup_ = some i) ∧ o.names_.Nodup ∧
      ∀ arg ∈ o.names_, (Registry.find arg p.lookup_).isSome = true := by
  intro p
  constructor
  · intro name
    exact (Declaration.find_run .empty declarations _).trans (Option.none_or ..)
  · intro i o stored
    have owner : (p.options_.map ParserOption.names_)[i]? = some o.names_ := by simp [stored]
    exact ⟨p.named.first i _ owner, p.named.distinct i _ owner, p.named.listed i _ owner⟩

namespace Parser

/-- The options that `main` declares. -/
def main : Parser :=
  let parser := (empty.define "config".toList).2
  let parser := (parser.alias_ 0 ['c']).2
  let parser := (with_arg_string "/etc/bro-spotd/bro-spotd.ini".toList 0 parser).2
  let parser := (parser.define "bro-ip".toList).2
  let parser := (parser.alias_ 1 ['i']).2
  let parser := (with_arg_string "127.0.0.1".toList 1 parser).2
  let parser := (parser.define "bro-port".toList).2
  let parser := (parser.alias_ 2 ['p']).2
  let parser := (with_arg_integer 47760 2 parser).2
  let parser := (parser.define "bro-event".toList).2
  let parser := (parser.alias_ 3 ['e']).2
  (with_arg_string "Stats::log_stats".toList 3 parser).2

end Parser

end BroSpotd.Cola
