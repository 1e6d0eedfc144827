import BroSpotd.Cola
import BroSpotd.Library.Cells

/-! What a command line means. A line is a list of words, each spelled in one or two arguments,
and an optional rest after a double dash. A word comes to an account: which options it mentions
with which text, which arguments it leaves over. The parser reads a line word by word and
applies the accounts; anything else it refuses with an error that says where. -/
namespace BroSpotd.Cola

/-- The value goes, the type stays. -/
def Argument.blank : Argument → Argument
  | .FLAG => .FLAG
  | .INTEGER _ => .INTEGER 0
  | .REAL _ => .REAL ⟨0⟩
  | .STRING _ => .STRING []
  | .IVECTOR _ => .IVECTOR []
  | .RVECTOR _ => .RVECTOR []
  | .SVECTOR _ => .SVECTOR []

/-- What a parse never changes of an option. -/
def ParserOption.shape (o : ParserOption) : ParserOption :=
  { o with argument := o.argument.blank, is_passed_ := false }

/-- The options that a parser knows by name. -/
def Parser.signature (p : Parser) (name : Text) : Option (Nat × ParserOption) :=
  (p.resolve name).map (fun found => (found.1, found.2.shape))

abbrev Signature := Text → Option (Nat × ParserOption)

/-- A mention of an option, with the text it is given. -/
abbrev Mention := Nat × Option Text

structure Account where
  mentions : List Mention
  leaves : List Text
  undefined : Bool

namespace Account

def empty : Account := ⟨[], [], false⟩
def mention (i : Nat) (text : Option Text) : Account := ⟨[(i,text)], [], false⟩
def leave (args : List Text) : Account := ⟨[], args, false⟩
def unknown (arg : Text) : Account := ⟨[], [arg], true⟩

def append (a b : Account) : Account :=
  ⟨a.mentions ++ b.mentions, a.leaves ++ b.leaves, a.undefined || b.undefined⟩

def concat (accounts : List Account) : Account := accounts.foldr append empty

end Account

variable (real : Text → Option Double)

/-- The option after a mention. A text that cannot be read leaves it as it is. -/
def ParserOption.mention (text : Option Text) (o : ParserOption) : ParserOption :=
  match text with
  | none => { o with is_passed_ := true }
  | some text =>
    match o.parse_arg real text with
    | .ok a => { o with argument := a, is_passed_ := true }
    | .error _ => o

theorem mention_names (text : Option Text) (o : ParserOption) : (o.mention real text).names_ = o.names_ := by
  cases text with
  | none => rfl
  | some text =>
    simp only [ParserOption.mention]
    split <;> rfl

def Parser.apply (account : Account) (p : Parser) : Parser :=
  { p with
    options_ := Cells.feed (ParserOption.mention real) p.options_ account.mentions
    rest_args_ := p.rest_args_ ++ account.leaves
    exists_undefined_ := p.exists_undefined_ || account.undefined
    named := by rw [Cells.map_feed _ _ (mention_names real)]; exact p.named }

/-- The first part of a word: a dash and a letter, or two dashes and a name. -/
inductive Head where
  | short (c : Char)
  | long (name : Text)

namespace Head

def arg : Head → Text
  | .short c => ['-',c]
  | .long name => '-' :: '-' :: name

def name : Head → Text
  | .short c => [c]
  | .long name => name

def Proper : Head → Prop
  | .short c => c ≠ '-'
  | .long name => name ≠ [] ∧ '=' ∉ name

end Head

def equalsArg (name text : Text) : Text := '-' :: '-' :: (name ++ '=' :: text)

inductive Word where
  | plain (arg : Text)
  | dash
  | named (head : Head) (text : Option Text)
  | joined (c : Char) (text : Text)
  | equals (name text : Text)
  | letters (cs : Text)
  | unknown (head : Head)
  | unknown_equals (name text : Text)

/-- An option that reads the text. -/
def Reads (sig : Signature) (name text : Text) : Prop :=
  ∃ i o a, sig name = some (i,o) ∧ o.parse_arg real text = .ok a

def IsFlag (sig : Signature) (name : Text) : Prop := ∃ i o, sig name = some (i,o) ∧ o.has_arg = false

namespace Word

def spell : Word → List Text
  | plain arg => [arg]
  | dash => [['-']]
  | named head none => [head.arg]
  | named head (some text) => [head.arg, text]
  | joined c text => ['-' :: c :: text]
  | equals name text => [equalsArg name text]
  | letters cs => ['-' :: cs]
  | unknown head => [head.arg]
  | unknown_equals name text => [equalsArg name text]

def Valid (sig : Signature) : Word → Prop
  | plain arg => arg.head? ≠ some '-'
  | dash => True
  | named head none => head.Proper ∧ IsFlag sig head.name
  | named head (some text) => head.Proper ∧ Reads real sig head.name text
  | joined c text => c ≠ '-' ∧ text ≠ [] ∧ Reads real sig [c] text
  | equals name text => '=' ∉ name ∧ text ≠ [] ∧ Reads real sig name text
  | letters cs => 2 ≤ cs.length ∧ cs.head? ≠ some '-' ∧ ∀ c ∈ cs, IsFlag sig [c]
  | unknown head => head.Proper ∧ sig head.name = none
  | unknown_equals name _ => '=' ∉ name ∧ sig name = none

end Word

/-- The mention of the option that has the name. -/
def mentionOf (sig : Signature) (name : Text) (text : Option Text) : Account :=
  match sig name with
  | some (i,_) => .mention i text
  | none => .empty

def lettersAccount (sig : Signature) (cs : Text) : Account :=
  Account.concat (cs.map (fun c => mentionOf sig [c] none))

def Word.account (sig : Signature) : Word → Account
  | plain arg => .leave [arg]
  | dash => .empty
  | named head text => mentionOf sig head.name text
  | joined c text => mentionOf sig [c] (some text)
  | equals name text => mentionOf sig name (some text)
  | letters cs => lettersAccount sig cs
  | unknown head => .unknown head.arg
  | unknown_equals name text => .unknown (equalsArg name text)

/-- What the parser refuses, where: the argument, those behind it, the error and the account of
the letters that it has passed in the same argument. -/
inductive Refusal (sig : Signature) : Text → List Text → Error → Account → Prop where
  | missing {head i o} : Head.Proper head → sig head.name = some (i,o) → o.has_arg = true →
      Refusal sig head.arg [] (Parser.needs_argument head.arg) .empty
  | unread {head i o text rest e} : Head.Proper head → sig head.name = some (i,o) → o.has_arg = true →
      o.parse_arg real text = .error e → Refusal sig head.arg (text :: rest) e .empty
  | unread_joined {c i o text rest e} : c ≠ '-' → text ≠ [] → sig [c] = some (i,o) → o.has_arg = true →
      o.parse_arg real text = .error e → Refusal sig ('-' :: c :: text) rest e .empty
  | unread_equals {name i o text rest e} : '=' ∉ name → text ≠ [] → sig name = some (i,o) →
      o.parse_arg real text = .error e → Refusal sig (equalsArg name text) rest e .empty
  | nothing_after_equals {name i o rest} : '=' ∉ name → sig name = some (i,o) →
      Refusal sig (equalsArg name []) rest (Parser.needs_argument name) .empty
  | undefined_letter {before c after rest} : 2 ≤ (before ++ c :: after).length →
      (before ++ c :: after).head? ≠ some '-' → (∀ b ∈ before, IsFlag sig [b]) → sig [c] = none →
      Refusal sig ('-' :: (before ++ c :: after)) rest
        (.logic_error (quoted "an option " (make_arg [c]) " is undefined")) (lettersAccount sig before)
  | letter_with_argument {before c after i o rest} : before ≠ [] → before.head? ≠ some '-' →
      (∀ b ∈ before, IsFlag sig [b]) → sig [c] = some (i,o) → o.has_arg = true →
      Refusal sig ('-' :: (before ++ c :: after)) rest (Parser.needs_argument (make_arg [c])) (lettersAccount sig before)

/-- The shape decides what an option reads and how it refuses. -/
@[simp] theorem shape_parse_arg (o : ParserOption) (text : Text) :
    o.shape.parse_arg real text = o.parse_arg real text := by
  obtain ⟨a,_,_,_⟩ := o
  cases a <;> rfl

@[simp] theorem shape_has_arg (o : ParserOption) : o.shape.has_arg = o.has_arg := by
  obtain ⟨a,_,_,_⟩ := o
  cases a <;> rfl

theorem blank_of_map {T : Type} (member : T → Argument) {blank : Argument} (same : ∀ value, (member value).blank = blank)
    {result : Except Error T} {a : Argument} (read : result.map member = .ok a) : a.blank = blank := by
  cases result with
  | error e => cases read
  | ok value => cases read; exact same value

/-- A text is read as an argument of the option's own type. -/
theorem parse_arg_blank {o : ParserOption} {text : Text} {a : Argument} (read : o.parse_arg real text = .ok a) :
    a.blank = o.argument.blank := by
  obtain ⟨member,_,_,_⟩ := o
  cases member with
  | FLAG => cases read
  | STRING value => cases read; rfl
  | INTEGER value => exact blank_of_map .INTEGER (fun _ => rfl) read
  | REAL value => exact blank_of_map .REAL (fun _ => rfl) read
  | IVECTOR value => exact blank_of_map .IVECTOR (fun _ => rfl) read
  | RVECTOR value => exact blank_of_map .RVECTOR (fun _ => rfl) read
  | SVECTOR value => exact blank_of_map .SVECTOR (fun _ => rfl) read

theorem mention_shape (text : Option Text) (o : ParserOption) : (o.mention real text).shape = o.shape := by
  cases text with
  | none => rfl
  | some text =>
    simp only [ParserOption.mention]
    split
    · next a read => simp [ParserOption.shape,parse_arg_blank real read]
    · rfl

section Accounts

/-- A parser is the same when its data are. -/
theorem Parser.same {p q : Parser} (args : p.args_ = q.args_) (rest_args : p.rest_args_ = q.rest_args_)
    (options : p.options_ = q.options_) (lookup : p.lookup_ = q.lookup_) (parsed : p.parsed_ = q.parsed_)
    (undefined : p.exists_undefined_ = q.exists_undefined_) : p = q := by
  cases p
  cases q
  simp_all

@[simp] theorem apply_empty (p : Parser) : p.apply real .empty = p := by
  apply Parser.same <;> simp [Parser.apply,Account.empty]

theorem apply_append (a b : Account) (p : Parser) : p.apply real (a.append b) = (p.apply real a).apply real b := by
  apply Parser.same <;> simp [Parser.apply,Account.append,Cells.feed_append,Bool.or_assoc]

theorem signature_eq (p : Parser) (name : Text) : p.signature name =
    (Registry.find (make_arg name) p.lookup_).bind (fun i =>
      ((p.options_.map ParserOption.shape)[i]?).map (fun o => (i,o))) := by
  simp only [Parser.signature, Parser.resolve, List.getElem?_map]
  cases Registry.find (make_arg name) p.lookup_ with
  | none => rfl
  | some i => simp only [Option.bind_some, Option.map_map]; rfl

@[simp] theorem signature_apply (account : Account) (p : Parser) : (p.apply real account).signature = p.signature := by
  funext name
  simp only [signature_eq, Parser.apply, Cells.map_feed _ _ (mention_shape real)]

/-- The option behind a name that the signature knows. -/
theorem resolve_of_signature {p : Parser} {name : Text} {i : Nat} {o : ParserOption}
    (known : p.signature name = some (i,o)) :
    ∃ o', p.resolve name = some (i,o') ∧ o'.shape = o ∧ p.options_[i]? = some o' := by
  obtain ⟨⟨j,o'⟩,found,shaped⟩ := Option.map_eq_some_iff.mp known
  obtain ⟨rfl,rfl⟩ := Prod.mk.inj shaped
  obtain ⟨k,_,there⟩ := Option.bind_eq_some_iff.mp found
  obtain ⟨o'',stored,same⟩ := Option.map_eq_some_iff.mp there
  cases same
  exact ⟨o', found, rfl, stored⟩

theorem resolve_none_iff (p : Parser) (name : Text) : p.resolve name = none ↔ p.signature name = none := by
  simp [Parser.signature]

/-- A name is in the table exactly when an option stands behind it. -/
theorem is_defined_iff (p : Parser) (name : Text) : p.is_defined name = (p.signature name).isSome := by
  cases found : Registry.find (make_arg name) p.lookup_ with
  | none => simp [Parser.is_defined,signature_eq,found]
  | some i =>
    obtain ⟨names,owner,_⟩ := p.named.leads _ i found
    rw [List.getElem?_map] at owner
    obtain ⟨o,stored,_⟩ := Option.map_eq_some_iff.mp owner
    simp [Parser.is_defined,signature_eq,found,stored]

theorem passed_eq (i : Nat) (p : Parser) : p.passed i = p.apply real (.mention i none) := by
  apply Parser.same <;> simp [Parser.passed,Parser.update,Parser.apply,Account.mention,Cells.feed]
  rfl

theorem assign_passed_eq {p : Parser} {i : Nat} {o : ParserOption} {text : Text} {a : Argument}
    (stored : p.options_[i]? = some o) (read : o.parse_arg real text = .ok a) :
    (p.assign i a).passed i = p.apply real (.mention i (some text)) := by
  apply Parser.same
  all_goals simp [Parser.assign,Parser.passed,Parser.update,Parser.apply,Account.mention,Cells.feed]
  rw [List.modify_modify_eq]
  apply List.ext_getElem?
  intro j
  rw [List.getElem?_modify, List.getElem?_modify]
  by_cases here : i = j
  · subst here
    simp [stored,ParserOption.mention,read]
  · simp [here]

end Accounts

end BroSpotd.Cola
