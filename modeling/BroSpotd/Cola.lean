import BroSpotd.Broccoli
import BroSpotd.Library.Cells
import BroSpotd.Library.Registry
import BroSpotd.Library.Scan

/-! cola.hpp, the command line parser: a parser is declared, parses one argument vector and
is then asked for values. An option is known by its place in `options_`, where the source
keeps a pointer. The usage texts are left out. -/
namespace BroSpotd.Cola

/-- A C++ string, a character for each byte. -/
abbrev Text := List Char

inductive Error where
  | logic_error (what : String)
  | runtime_error (what : String)
  deriving DecidableEq, Repr

inductive ArgumentType where
  | FLAG
  | INTEGER
  | REAL
  | STRING
  | IVECTOR
  | RVECTOR
  | SVECTOR
  deriving DecidableEq, Repr

/-- `type_` and the member of the union that it selects. -/
inductive Argument where
  | FLAG
  | INTEGER (value_i : Int32)
  | REAL (value_r : Double)
  | STRING (value_s : Text)
  | IVECTOR (value_iv : List Int32)
  | RVECTOR (value_rv : List Double)
  | SVECTOR (value_sv : List Text)
  deriving DecidableEq, Repr

def Argument.type_ : Argument → ArgumentType
  | .FLAG => .FLAG
  | .INTEGER _ => .INTEGER
  | .REAL _ => .REAL
  | .STRING _ => .STRING
  | .IVECTOR _ => .IVECTOR
  | .RVECTOR _ => .RVECTOR
  | .SVECTOR _ => .SVECTOR

@[ext] structure ParserOption where
  argument : Argument
  is_passed_ : Bool
  names_ : List Text
  delim_ : Char
  deriving DecidableEq, Repr

/-- `lookup_` leads from a name to the place of its option. -/
structure Parser where
  args_ : List Text
  rest_args_ : List Text
  options_ : List ParserOption
  lookup_ : List (Text × Nat)
  parsed_ : Bool
  exists_undefined_ : Bool
  named : Registry.Consistent (options_.map ParserOption.names_) lookup_

inductive LiteralType where
  | SHORT
  | SHORTS
  | LONG
  | LONG_ARG
  | IGNORE
  | IGNORE_AFTER
  | ELSE
  deriving DecidableEq, Repr

def quoted (before : String) (name : Text) (after : String) : String :=
  before ++ "'" ++ String.ofList name ++ "'" ++ after

/-- The overload on a character is the case of one character. -/
def make_arg (name : Text) : Text := if name.length = 1 then '-' :: name else '-' :: '-' :: name

section Reading

def isspace (c : Char) : Bool := c = ' ' || 9 ≤ c.toNat && c.toNat ≤ 13

def decimal (digits : Text) : Nat := digits.foldl (fun n c => 10 * n + (c.toNat - 48)) 0

def signed : Text → Int × Text
  | '-' :: digits => (-1, digits)
  | '+' :: digits => (1, digits)
  | digits => (1, digits)

def cast_failed (value : Text) (title : String) : Error :=
  .runtime_error (quoted "cast failed: " value (" to " ++ title))

/-- `ss >> ret` on an int, up to the end of the stream. -/
def from_string_integer (value : Text) : Except Error Int32 :=
  let (sign, digits) := signed (value.dropWhile isspace)
  let n := sign * decimal digits
  if digits ≠ [] ∧ digits.all Char.isDigit ∧ -2^31 ≤ n ∧ n < 2^31 then .ok (.ofInt n)
  else .error (cast_failed value "integer")

/-- `real` is what a stringstream reads off the text as a double, none where it fails or
stops before the end. -/
def from_string_real (real : Text → Option Double) (value : Text) : Except Error Double :=
  match real value with
  | some ret => .ok ret
  | none => .error (cast_failed value "real")

def from_string_string (value : Text) : Except Error Text := .ok value

/-- Empty items are skipped. -/
def from_string_vector {T : Type} (from_string : Text → Except Error T) (value : Text) (delim : Char) :
    Except Error (List T) :=
  ((value.splitOn delim).filter (fun item => item ≠ [])).mapM from_string

end Reading

namespace ParserOption

def has_arg (o : ParserOption) : Bool := o.argument.type_ ≠ .FLAG

/-- `names_[0]`; the list is never empty. -/
def first_name (o : ParserOption) : Text := o.names_.headD []

def parse_arg (real : Text → Option Double) (o : ParserOption) (arg : Text) : Except Error Argument :=
  match o.argument with
  | .INTEGER _ => (from_string_integer arg).map .INTEGER
  | .REAL _ => (from_string_real real arg).map .REAL
  | .STRING _ => .ok (.STRING arg)
  | .IVECTOR _ => (from_string_vector from_string_integer arg o.delim_).map .IVECTOR
  | .RVECTOR _ => (from_string_vector (from_string_real real) arg o.delim_).map .RVECTOR
  | .SVECTOR _ => (from_string_vector from_string_string arg o.delim_).map .SVECTOR
  | .FLAG => .error (.logic_error (quoted "the option " o.first_name " don't take an argument."))

end ParserOption

namespace Parser

/-- The constructor. -/
def empty : Parser := ⟨[], [], [], [], false, false, Registry.consistent_empty⟩

theorem names_modify {f : ParserOption → ParserOption} (keeps : ∀ o, (f o).names_ = o.names_)
    (options : List ParserOption) (i : Nat) :
    (options.modify i f).map ParserOption.names_ = options.map ParserOption.names_ :=
  Cells.map_modify keeps options i

/-- A change of one option that leaves its names. -/
def update (p : Parser) (i : Nat) (f : ParserOption → ParserOption) (keeps : ∀ o, (f o).names_ = o.names_) :
    Parser :=
  { p with
    options_ := p.options_.modify i f
    named := by rw [names_modify keeps]; exact p.named }

def passed (i : Nat) (p : Parser) : Parser := p.update i (fun o => { o with is_passed_ := true }) (fun _ => rfl)

def assign (i : Nat) (a : Argument) (p : Parser) : Parser :=
  p.update i (fun o => { o with argument := a }) (fun _ => rfl)

def must_be_parsed (func_name : String) (p : Parser) : Except Error Unit :=
  if p.parsed_ then .ok () else .error (.logic_error ("call '" ++ func_name ++ "' after parse arguments"))

def must_not_be_parsed (func_name : String) (p : Parser) : Except Error Unit :=
  if p.parsed_ then .error (.logic_error ("call '" ++ func_name ++ "' before parse arguments")) else .ok ()

def is_defined (p : Parser) (name : Text) : Bool := (Registry.find (make_arg name) p.lookup_).isSome

/-- The option behind a name, with its place. -/
def resolve (p : Parser) (name : Text) : Option (Nat × ParserOption) :=
  (Registry.find (make_arg name) p.lookup_).bind (fun i => (p.options_[i]?).map (fun o => (i,o)))

def get_option (p : Parser) (name : Text) : Except Error (Nat × ParserOption) :=
  match p.resolve name with
  | some found => .ok found
  | none => .error (.logic_error (quoted "an option " (make_arg name) " is undefined"))

section Declaring

/-- A new option under a name that is not in the table; its constructor calls `alias`. -/
def add (arg : Text) (p : Parser) (fresh : Registry.find arg p.lookup_ = none) : Parser :=
  { p with
    options_ := p.options_ ++ [⟨.FLAG, false, [arg], ','⟩]
    lookup_ := Registry.enter arg p.options_.length p.lookup_
    named := by simpa using p.named.register fresh }

/-- The result is the place of the new option. The description only shows in the usage. -/
def define (name : Text) (p : Parser) : Except Error Nat × Parser :=
  match p.must_not_be_parsed "parser::define" with
  | .error e => (.error e, p)
  | .ok () =>
    match taken : Registry.find (make_arg name) p.lookup_ with
    | some _ => (.error (.logic_error (quoted "the option " (make_arg name) " is already defined")), p)
    | none =>
      if name = [] then (.error (.logic_error "don't pass empty string to parser::define"), p)
      else (.ok p.options_.length, p.add (make_arg name) taken)

def define_char (name : Char) (p : Parser) : Except Error Nat × Parser :=
  match p.must_not_be_parsed "parser::define" with
  | .error e => (.error e, p)
  | .ok () =>
    match taken : Registry.find (make_arg [name]) p.lookup_ with
    | some _ => (.error (.logic_error (quoted "the option " (make_arg [name]) " is already defined")), p)
    | none =>
      if name = ' ' then (.error (.logic_error "don't pass white space to parser::define"), p)
      else (.ok p.options_.length, p.add (make_arg [name]) taken)

/-- What the member functions of an option, called while it is declared, have in common. -/
def declare (func_name : String) (i : Nat) (p : Parser)
    (change : (o : ParserOption) → p.options_[i]? = some o → Except Error Parser) : Except Error Unit × Parser :=
  match p.must_not_be_parsed func_name with
  | .error e => (.error e, p)
  | .ok () =>
    match here : p.options_[i]? with
    | none => (.ok (), p) -- no reference to such an option exists
    | some o =>
      match change o here with
      | .error e => (.error e, p)
      | .ok p => (.ok (), p)

theorem names_rename {i : Nat} {o : ParserOption} (options : List ParserOption) (names : List Text) :
    (options.set i { o with names_ := names }).map ParserOption.names_ =
      (options.map ParserOption.names_).set i names := by
  simp [List.map_set]

/-- `check_multi` looks at the option's own names only. -/
def alias_ (i : Nat) (name : Text) (p : Parser) : Except Error Unit × Parser :=
  p.declare "parser::option::alias" i (fun o here =>
    if own : make_arg name ∈ o.names_ then .error (.logic_error (quoted "" (make_arg name) " is already defined"))
    else .ok
      { p with
        options_ := p.options_.set i { o with names_ := o.names_ ++ [make_arg name] }
        lookup_ := Registry.enter (make_arg name) i p.lookup_
        named := by rw [names_rename]; exact p.named.alias (by simp [here]) own })

/-- `with_arg` and `with_arg_vector`: `read` makes the default of the option's new type. -/
def with_argument (func_name : String) (read : ParserOption → Except Error Argument) (i : Nat) (p : Parser) :
    Except Error Unit × Parser :=
  p.declare func_name i (fun o _ =>
    if o.argument.type_ ≠ .FLAG then
      .error (.logic_error "parser::option::with_arg() cal be called only once")
    else (read o).map (fun a => p.assign i a))

def with_arg_integer (default_value : Int32) :=
  with_argument "parser::option::with_arg" (fun _ => .ok (.INTEGER default_value))
def with_arg_real (default_value : Double) :=
  with_argument "parser::option::with_arg" (fun _ => .ok (.REAL default_value))
def with_arg_string (default_value : Text) :=
  with_argument "parser::option::with_arg" (fun _ => .ok (.STRING default_value))
def with_arg_ivector (default_value : List Int32) :=
  with_argument "parser::option::with_arg_vector" (fun _ => .ok (.IVECTOR default_value))
def with_arg_rvector (default_value : List Double) :=
  with_argument "parser::option::with_arg_vector" (fun _ => .ok (.RVECTOR default_value))
def with_arg_svector (default_value : List Text) :=
  with_argument "parser::option::with_arg_vector" (fun _ => .ok (.SVECTOR default_value))
def with_arg_ivector_text (default_value : Text) :=
  with_argument "parser::option::with_arg_vector" (fun o =>
    (from_string_vector from_string_integer default_value o.delim_).map .IVECTOR)
def with_arg_rvector_text (real : Text → Option Double) (default_value : Text) :=
  with_argument "parser::option::with_arg_vector" (fun o =>
    (from_string_vector (from_string_real real) default_value o.delim_).map .RVECTOR)
def with_arg_svector_text (default_value : Text) :=
  with_argument "parser::option::with_arg_vector" (fun o =>
    (from_string_vector from_string_string default_value o.delim_).map .SVECTOR)

def delimiter (d : Char) (i : Nat) (p : Parser) : Except Error Unit × Parser :=
  p.declare "parser::option::delimiter" i (fun _ _ =>
    .ok (p.update i (fun o => { o with delim_ := d }) (fun _ => rfl)))

end Declaring

section Parsing

def judge (arg : Text) : LiteralType :=
  match arg with
  | '-' :: [] => .IGNORE
  | '-' :: '-' :: [] => .IGNORE_AFTER
  | '-' :: '-' :: _ => if '=' ∈ arg then .LONG_ARG else .LONG
  | '-' :: _ => if arg.length ≠ 2 then .SHORTS else .SHORT
  | _ => .ELSE

/-- What is not an option, and what is not defined. -/
def push_rest (arg : Text) (p : Parser) : Parser := { p with rest_args_ := p.rest_args_ ++ [arg] }
def push_undefined (arg : Text) (p : Parser) : Parser :=
  { p with exists_undefined_ := true, rest_args_ := p.rest_args_ ++ [arg] }

variable (real : Text → Option Double)

/-- The option takes the text as its argument and counts as passed. -/
def take_arg (taken i : Nat) (o : ParserOption) (text : Text) (p : Parser) : Except Error Nat × Parser :=
  match o.parse_arg real text with
  | .error e => (.error e, p)
  | .ok a => (.ok taken, (p.assign i a).passed i)

def needs_argument (arg : Text) : Error := .runtime_error (quoted "the option " arg " needs argument")

/-- `-a` and `--option`: the name is what follows the dashes, the argument is the next one
in line, whatever it looks like. -/
def eval_option (name arg : Text) (rest : List Text) (p : Parser) : Except Error Nat × Parser :=
  if !p.is_defined name then (.ok 0, p.push_undefined arg)
  else match p.get_option name with
    | .error e => (.error e, p)
    | .ok (i, opt) =>
      if opt.has_arg then
        match rest with
        | [] => (.error (needs_argument arg), p)
        | next :: _ => p.take_arg real 1 i opt next
      else (.ok 0, p.passed i)

def eval_short_option (arg : Text) : List Text → Parser → Except Error Nat × Parser :=
  eval_option real (arg.drop 1) arg

def eval_long_option (arg : Text) : List Text → Parser → Except Error Nat × Parser :=
  eval_option real (arg.drop 2) arg

/-- The loop over the letters of `-abc`; the options before a failing letter have passed. -/
def pass_letters : Text → Parser → Except Error Nat × Parser
  | [], p => (.ok 0, p)
  | c :: letters, p =>
    match p.get_option [c] with
    | .error e => (.error e, p)
    | .ok (i, opt) =>
      if opt.has_arg then (.error (needs_argument (make_arg [c])), p)
      else pass_letters letters (p.passed i)

/-- `-a123` where `a` takes an argument, else `-abc`. -/
def eval_shorts_option (arg : Text) (p : Parser) : Except Error Nat × Parser :=
  match p.get_option ((arg.drop 1).take 1) with
  | .error e => (.error e, p)
  | .ok (i, opt1) =>
    if opt1.has_arg then p.take_arg real 0 i opt1 (arg.drop 2)
    else pass_letters (arg.drop 1) p

def eval_long_param_option (arg : Text) (p : Parser) : Except Error Nat × Parser :=
  let name := (arg.drop 2).takeWhile (fun c => c ≠ '=')
  let arg2 := ((arg.drop 2).dropWhile (fun c => c ≠ '=')).drop 1
  if !p.is_defined name then (.ok 0, p.push_undefined arg)
  else match p.get_option name with
    | .error e => (.error e, p)
    | .ok (i, opt) => if arg2 = [] then (.error (needs_argument name), p) else p.take_arg real 0 i opt arg2

/-- One turn of the loop; the result counts the arguments it takes besides `arg`. -/
def turn : Scan.Turn Error Text Parser := fun arg rest p =>
  match judge arg with
  | .SHORT => eval_short_option real arg rest p
  | .SHORTS => eval_shorts_option real arg p
  | .LONG => eval_long_option real arg rest p
  | .LONG_ARG => eval_long_param_option real arg p
  | .IGNORE => (.ok 0, p)
  | .IGNORE_AFTER => (.ok rest.length, { p with rest_args_ := p.rest_args_ ++ rest })
  | .ELSE => (.ok 0, p.push_rest arg)

/-- An exception leaves `parsed_` as it is. -/
def parse_impl (args : List Text) (p : Parser) : Except Error Unit × Parser :=
  match Scan.scan (turn real) (args.drop 1) p with
  | (.error e, p) => (.error e, p)
  | (.ok (), p) => (.ok (), { p with parsed_ := true })

def parse (argv : List Text) (p : Parser) : Except Error Unit × Parser :=
  if p.parsed_ then (.error (.logic_error "call parser::parse() only once"), p)
  else parse_impl real argv { p with args_ := argv }

end Parsing

section Asking

/-- `is_passed_` goes back; the values and `exists_undefined_` stay. -/
def reset (p : Parser) : Parser :=
  { p with
    args_ := []
    rest_args_ := []
    options_ := p.options_.map (fun o => { o with is_passed_ := false })
    parsed_ := false
    named := by rw [List.map_map]; exact p.named }

def is_passed (p : Parser) (name : Text) : Except Error Bool := do
  p.must_be_parsed "parser::is_passed"
  return (← p.get_option name).2.is_passed_

/-- `as<T>` and `as_vector<T>`: `member` is the union's member of the type. -/
def as_ {T : Type} (func_name : String) (member : Argument → Option T) (title : String) (p : Parser)
    (o : ParserOption) : Except Error T := do
  p.must_be_parsed func_name
  match member o.argument with
  | some value => return value
  | none => .error (.logic_error (quoted "argument type of " o.first_name (" is not " ++ title)))

def get {T : Type} (member : Argument → Option T) (title : String) (p : Parser) (name : Text) :
    Except Error T := do
  p.must_be_parsed "parser::get"
  p.as_ "parser::option::as" member title (← p.get_option name).2

def get_integer : Parser → Text → Except Error Int32 :=
  get (fun | .INTEGER value => some value | _ => none) "integer"
def get_real : Parser → Text → Except Error Double :=
  get (fun | .REAL value => some value | _ => none) "real"
def get_string : Parser → Text → Except Error Text :=
  get (fun | .STRING value => some value | _ => none) "string"

def get_vector {T : Type} (member : Argument → Option T) (title : String) (p : Parser) (name : Text) :
    Except Error T := do
  p.must_be_parsed "parser::get_vector"
  p.as_ "parser::option::as_vector" member title (← p.get_option name).2

def get_ivector : Parser → Text → Except Error (List Int32) :=
  get_vector (fun | .IVECTOR value => some value | _ => none) "vector<integer>"
def get_rvector : Parser → Text → Except Error (List Double) :=
  get_vector (fun | .RVECTOR value => some value | _ => none) "vector<real>"
def get_svector : Parser → Text → Except Error (List Text) :=
  get_vector (fun | .SVECTOR value => some value | _ => none) "vector<string>"

def rest_args (p : Parser) : Except Error (List Text) := do
  p.must_be_parsed "parser::rest_args"
  return p.rest_args_

def exists_undefined_options (p : Parser) : Bool := p.exists_undefined_

end Asking

end Parser

end BroSpotd.Cola
