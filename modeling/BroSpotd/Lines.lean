import BroSpotd.Options
import BroSpotd.Parsing

/-! Whole command lines. A parse accepts exactly the lines made of valid words, and leaves what
their accounts come to: every option with the last text it was given, the leftover arguments
in order. A line that it refuses is valid up to the argument that its error is about. -/
namespace BroSpotd.Cola

variable (real : Text → Option Double)

/-- How a list of arguments reads: word by word, up to its end, a double dash or a refusal. -/
inductive Outcome (sig : Signature) : List Text → Account → Option Error → Prop where
  | done : Outcome sig [] .empty none
  | dashes {tail} : Outcome sig (['-','-'] :: tail) (.leave tail) none
  | word {w args account result} : Word.Valid real sig w → Outcome sig args account result →
      Outcome sig (w.spell ++ args) ((w.account sig).append account) result
  | refused {arg rest e account} : Refusal real sig arg rest e account →
      Outcome sig (arg :: rest) account (some e)

/-- Every list of arguments reads in some way. -/
theorem outcome_exists (sig : Signature) (args : List Text) : ∃ account result, Outcome real sig args account result := by
  induction args using Scan.tails_induction with
  | nil => exact ⟨_, _, .done⟩
  | cons arg rest ih =>
    rcases word_or_refusal real sig arg rest with rfl | ⟨w,taken,more,valid,spelled,rfl⟩ | ⟨e,account,refused⟩
    · exact ⟨_, _, .dashes⟩
    · obtain ⟨account,result,later⟩ := ih taken.length
      rw [List.drop_left] at later
      have line := Outcome.word valid later
      rw [spelled, List.cons_append] at line
      exact ⟨_, _, line⟩
    · exact ⟨_, _, .refused refused⟩

def ended : Option Error → Except Error Unit
  | none => .ok ()
  | some e => .error e

/-- The loop does what the reading says. -/
theorem scan_outcome {p : Parser} {args : List Text} {account : Account} {result : Option Error}
    (outcome : Outcome real p.signature args account result) :
    Scan.scan (Parser.turn real) args p = (ended result, p.apply real account) := by
  generalize same : p.signature = sig at outcome
  induction outcome generalizing p with
  | done => simp [ended]
  | @dashes tail =>
    have turned : Parser.turn real ['-','-'] tail p = (.ok tail.length, p.apply real (.leave tail)) := by
      simp only [Parser.turn, Parser.judge]
      congr 1
      apply Parser.same <;> simp [Parser.apply,Account.leave]
    rw [Scan.scan_ok turned, List.drop_length]
    rfl
  | @word w args account result valid later ih =>
    subst same
    obtain ⟨arg,taken,spelled,turned⟩ := turn_word valid
    rw [spelled, List.cons_append, Scan.scan_ok (turned args), List.drop_left,
      ih (signature_apply real _ p), apply_append]
  | refused refused =>
    subst same
    rw [Scan.scan_error (turn_refusal refused)]
    rfl

/-- The state that a parse leaves. -/
def Parser.parsed (argv : List Text) (account : Account) (result : Option Error) (p : Parser) : Parser :=
  { ({ p with args_ := argv } : Parser).apply real account with parsed_ := result.isNone }

theorem parse_outcome {p : Parser} (unparsed : p.parsed_ = false) {argv : List Text} {account : Account}
    {result : Option Error} (outcome : Outcome real p.signature (argv.drop 1) account result) :
    p.parse real argv = (ended result, p.parsed real argv account result) := by
  have scanned := scan_outcome real (p := { p with args_ := argv }) outcome
  have parses : p.parse real argv = Parser.parse_impl real argv { p with args_ := argv } := by
    simp [Parser.parse,unparsed]
  rw [parses, Parser.parse_impl, scanned]
  cases result with
  | none => rfl
  | some e => exact congrArg (Prod.mk _) (Parser.same rfl rfl rfl rfl unparsed rfl)

/-- A line: its words, and what follows a double dash. -/
structure Line where
  words : List Word
  tail : Option (List Text)

namespace Line

def spell (line : Line) : List Text :=
  line.words.flatMap Word.spell ++ match line.tail with
    | none => []
    | some tail => ['-','-'] :: tail

def Valid (sig : Signature) (line : Line) : Prop := ∀ w ∈ line.words, w.Valid real sig

def account (sig : Signature) (line : Line) : Account :=
  (line.words.map (Word.account sig)).foldr Account.append (match line.tail with
    | none => .empty
    | some tail => .leave tail)

end Line

theorem outcome_line (sig : Signature) {line : Line} (valid : line.Valid real sig) :
    Outcome real sig line.spell (line.account sig) none := by
  obtain ⟨words,tail⟩ := line
  induction words with
  | nil =>
    cases tail with
    | none => exact .done
    | some tail => exact .dashes
  | cons w words ih =>
    have later := ih (fun w' member => valid w' (List.mem_cons_of_mem _ member))
    have whole := Outcome.word (valid w List.mem_cons_self) later
    simpa [Line.spell,Line.account] using whole

theorem line_of_outcome {sig : Signature} {args : List Text} {account : Account}
    (outcome : Outcome real sig args account none) :
    ∃ line : Line, line.Valid real sig ∧ args = line.spell ∧ account = line.account sig := by
  generalize accepted : (none : Option Error) = result at outcome
  induction outcome with
  | done => exact ⟨⟨[],none⟩, by simp [Line.Valid], rfl, rfl⟩
  | @dashes tail => exact ⟨⟨[],some tail⟩, by simp [Line.Valid], rfl, rfl⟩
  | @word w args account result valid later ih =>
    obtain ⟨line,each,rfl,rfl⟩ := ih accepted
    refine ⟨⟨w :: line.words, line.tail⟩, ?_, by simp [Line.spell], rfl⟩
    intro w' member
    rcases List.mem_cons.mp member with rfl | member
    · exact valid
    · exact each w' member
  | refused => cases accepted

section Unambiguous

def Head.read (sig : Signature) (head : Head) (rest : List Text) : Word :=
  match sig head.name with
  | none => .unknown head
  | some (_,o) => .named head (if o.has_arg then rest.head? else none)

/-- The only word that can begin with an argument. -/
def Word.read (sig : Signature) (arg : Text) (rest : List Text) : Word :=
  match Parser.judge arg with
  | .SHORT => Head.read sig (.short ((arg.drop 1).headD '-')) rest
  | .LONG => Head.read sig (.long (arg.drop 2)) rest
  | .SHORTS =>
    match sig ((arg.drop 1).take 1) with
    | some (_,o) => if o.has_arg then .joined ((arg.drop 1).headD '-') (arg.drop 2) else .letters (arg.drop 1)
    | none => .letters (arg.drop 1)
  | .LONG_ARG =>
    let name := (arg.drop 2).takeWhile (fun c => c ≠ '=')
    let text := ((arg.drop 2).dropWhile (fun c => c ≠ '=')).drop 1
    if (sig name).isSome then .equals name text else .unknown_equals name text
  | .ELSE => .plain arg
  | _ => .dash

theorem read_head {head : Head} (proper : head.Proper) (sig : Signature) (rest : List Text) :
    Word.read sig head.arg rest = head.read sig rest := by
  cases head with
  | short c => simp [Word.read,Head.arg,judge_short proper]
  | long name => simp [Word.read,Head.arg,judge_long proper]

variable {real} {sig : Signature}

theorem read_spell {w : Word} (valid : w.Valid real sig) {arg : Text} {taken : List Text}
    (spelled : w.spell = arg :: taken) (more : List Text) : Word.read sig arg (taken ++ more) = w := by
  cases w with
  | plain arg => cases spelled; simp [Word.read,judge_plain valid]
  | dash => cases spelled; rfl
  | named head text =>
    cases text with
    | none =>
      obtain ⟨proper,i,o,known,flag⟩ := valid
      cases spelled
      simp [read_head proper,Head.read,known,flag]
    | some text =>
      obtain ⟨proper,i,o,a,known,read⟩ := valid
      cases spelled
      simp [read_head proper,Head.read,known,has_arg_of_parse read]
  | joined c text =>
    obtain ⟨other,written,i,o,a,known,read⟩ := valid
    cases spelled
    have two : 2 ≤ (c :: text).length := by
      have := List.length_pos_of_ne_nil written
      simp only [List.length_cons]
      omega
    simp [Word.read,judge_cluster two (by simpa using other),known,has_arg_of_parse read]
  | equals name text =>
    obtain ⟨unwritten,_,i,o,a,known,_⟩ := valid
    cases spelled
    obtain ⟨before,after⟩ := split_equals unwritten text
    simp only [Word.read, judge_equals]
    simp only [equalsArg, List.drop_succ_cons, List.drop_zero, before, after, known, Option.isSome_some, if_true]
  | letters cs =>
    obtain ⟨two,letter,flags⟩ := valid
    cases spelled
    cases cs with
    | nil => simp at two
    | cons c cs =>
      obtain ⟨i,o,known,flag⟩ := flags c List.mem_cons_self
      simp [Word.read,judge_cluster two letter,known,flag]
  | unknown head =>
    obtain ⟨proper,unknown⟩ := valid
    cases spelled
    simp [read_head proper,Head.read,unknown]
  | unknown_equals name text =>
    obtain ⟨unwritten,unknown⟩ := valid
    cases spelled
    obtain ⟨before,after⟩ := split_equals unwritten text
    simp only [Word.read, judge_equals]
    simp only [equalsArg, List.drop_succ_cons, List.drop_zero, before, after, unknown, Option.isSome_none,
      Bool.false_eq_true, if_false]

theorem spell_cons (w : Word) : ∃ arg taken, w.spell = arg :: taken := by
  cases w with
  | named head text => cases text <;> exact ⟨_, _, rfl⟩
  | _ => exact ⟨_, _, rfl⟩

theorem word_not_dashes {w : Word} (valid : w.Valid real sig) {args tail : List Text} :
    w.spell ++ args ≠ ['-','-'] :: tail := by
  intro same
  obtain ⟨arg,taken,spelled⟩ := spell_cons w
  rw [spelled] at same
  obtain ⟨rfl,_⟩ := List.cons.inj same
  obtain rfl : Word.dash = w := read_spell valid spelled []
  cases spelled

theorem word_unique {w w' : Word} (valid : w.Valid real sig) (valid' : w'.Valid real sig) {xs ys : List Text}
    (same : w.spell ++ xs = w'.spell ++ ys) : w = w' ∧ xs = ys := by
  obtain ⟨arg,taken,spelled⟩ := spell_cons w
  obtain ⟨arg',taken',spelled'⟩ := spell_cons w'
  have aligned := same
  rw [spelled, spelled'] at aligned
  obtain ⟨rfl,behind⟩ := List.cons.inj aligned
  have one : w = w' := by
    rw [← read_spell valid spelled xs, ← read_spell valid' spelled' ys]
    exact congrArg _ behind
  subst one
  exact ⟨rfl, List.append_cancel_left same⟩

theorem line_unique {line line' : Line} (valid : line.Valid real sig) (valid' : line'.Valid real sig)
    (same : line.spell = line'.spell) : line = line' := by
  obtain ⟨words,tail⟩ := line
  obtain ⟨words',tail'⟩ := line'
  simp only [Line.spell, Line.Valid] at same valid valid'
  suffices both : words = words' ∧ tail = tail' by rw [both.1, both.2]
  induction words generalizing words' with
  | nil =>
    cases words' with
    | nil => cases tail <;> cases tail' <;> simp_all
    | cons w' words' =>
      rw [List.flatMap_cons, List.append_assoc] at same
      obtain ⟨arg,taken,spelled⟩ := spell_cons w'
      cases tail with
      | none => simp [spelled] at same
      | some tail => exact absurd same.symm (word_not_dashes (valid' w' List.mem_cons_self))
  | cons w words ih =>
    rw [List.flatMap_cons, List.append_assoc] at same
    cases words' with
    | nil =>
      obtain ⟨arg,taken,spelled⟩ := spell_cons w
      cases tail' with
      | none => simp [spelled] at same
      | some tail' => exact absurd same (word_not_dashes (valid w List.mem_cons_self))
    | cons w' words' =>
      rw [List.flatMap_cons, List.append_assoc] at same
      obtain ⟨rfl,behind⟩ := word_unique (valid w List.mem_cons_self) (valid' w' List.mem_cons_self) same
      obtain ⟨rfl,rfl⟩ := ih (fun v member => valid v (List.mem_cons_of_mem _ member)) words'
        (fun v member => valid' v (List.mem_cons_of_mem _ member)) behind
      exact ⟨rfl,rfl⟩

end Unambiguous

section Recording

/-- The arguments that the texts of some mentions are read as. -/
def ParserOption.readings (o : ParserOption) (mentions : List (Option Text)) : List Argument :=
  mentions.filterMap (fun text => text.bind (fun text => (o.parse_arg real text).toOption))

/-- The option after its mentions: passed if there is one, with the last text it was given. -/
def ParserOption.recorded (o : ParserOption) (mentions : List (Option Text)) : ParserOption :=
  { o with
    is_passed_ := o.is_passed_ || !mentions.isEmpty
    argument := ((o.readings real mentions).getLast?).getD o.argument }

/-- A mention leaves what an option reads. -/
theorem parse_arg_mention (o : ParserOption) (mention : Option Text) (text : Text) :
    (o.mention real mention).parse_arg real text = o.parse_arg real text := by
  rw [← shape_parse_arg real (o.mention real mention), mention_shape, shape_parse_arg]

theorem foldl_mention {o : ParserOption} {mentions : List (Option Text)}
    (reads : ∀ text, some text ∈ mentions → ∃ a, o.parse_arg real text = .ok a) :
    mentions.foldl (fun o text => o.mention real text) o = o.recorded real mentions := by
  induction mentions generalizing o with
  | nil => simp [ParserOption.recorded,ParserOption.readings]
  | cons mention rest ih =>
    have later : ∀ text, some text ∈ rest → ∃ a, (o.mention real mention).parse_arg real text = .ok a := by
      intro text member
      rw [parse_arg_mention]
      exact reads text (List.mem_cons_of_mem _ member)
    rw [List.foldl_cons, ih later]
    simp only [ParserOption.recorded, ParserOption.readings, parse_arg_mention]
    cases mention with
    | none => simp [ParserOption.mention]
    | some text =>
      obtain ⟨a,read⟩ := reads text List.mem_cons_self
      simp [ParserOption.mention,read,Except.toOption,List.getLast?_cons]

/-- Every text that a reading gives to an option is one that the option reads. -/
def TextsRead (sig : Signature) (account : Account) : Prop :=
  ∀ i text, (i, some text) ∈ account.mentions → ∃ name o a, sig name = some (i,o) ∧ o.parse_arg real text = .ok a

theorem textsRead_mentionOf {sig : Signature} {name text : Text} (reads : Reads real sig name text) :
    TextsRead real sig (mentionOf sig name (some text)) := by
  obtain ⟨i,o,a,known,read⟩ := reads
  intro j text' member
  simp only [mentionOf, known, Account.mention, List.mem_singleton, Prod.mk.injEq, Option.some.injEq] at member
  obtain ⟨rfl,rfl⟩ := member
  exact ⟨name,o,a,known,read⟩

theorem textsRead_letters (sig : Signature) (cs : Text) : TextsRead real sig (lettersAccount sig cs) := by
  intro i text member
  induction cs with
  | nil => simp [lettersAccount,Account.concat,Account.empty] at member
  | cons c cs ih =>
    rw [lettersAccount_cons] at member
    rcases List.mem_append.mp member with first | later
    · simp only [mentionOf] at first
      split at first <;> simp [Account.mention,Account.empty] at first
    · exact ih later

theorem textsRead_word {sig : Signature} {w : Word} (valid : w.Valid real sig) : TextsRead real sig (w.account sig) := by
  have none_mentioned : ∀ account : Account, account.mentions = [] → TextsRead real sig account := by
    intro account empty i text member
    simp [empty] at member
  cases w with
  | plain arg => exact none_mentioned _ rfl
  | dash => exact none_mentioned _ rfl
  | named head text =>
    cases text with
    | some text => exact textsRead_mentionOf real valid.2
    | none =>
      intro i text member
      simp only [Word.account, mentionOf] at member
      split at member <;> simp [Account.mention,Account.empty] at member
  | joined c text => exact textsRead_mentionOf real valid.2.2
  | equals name text => exact textsRead_mentionOf real valid.2.2
  | letters cs => exact textsRead_letters real sig cs
  | unknown head => exact none_mentioned _ rfl
  | unknown_equals name text => exact none_mentioned _ rfl

theorem textsRead_outcome {sig : Signature} {args : List Text} {account : Account} {result : Option Error}
    (outcome : Outcome real sig args account result) : TextsRead real sig account := by
  induction outcome with
  | done => intro i text member; simp [Account.empty] at member
  | dashes => intro i text member; simp [Account.leave] at member
  | word valid later ih =>
    intro i text member
    rcases List.mem_append.mp member with first | rest
    · exact textsRead_word real valid i text first
    · exact ih i text rest
  | refused refused =>
    intro i text member
    cases refused with
    | undefined_letter => exact textsRead_letters real sig _ i text member
    | letter_with_argument => exact textsRead_letters real sig _ i text member
    | _ => simp [Account.empty] at member

/-- Each option as its mentions in an account leave it. -/
theorem resolve_apply {p : Parser} {account : Account} (texts : TextsRead real p.signature account) (name : Text) :
    (p.apply real account).resolve name = (p.resolve name).map (fun found =>
      (found.1, found.2.recorded real (Cells.addressed found.1 account.mentions))) := by
  simp only [Parser.resolve, Parser.apply, Cells.feed_getElem?]
  cases Registry.find (make_arg name) p.lookup_ with
  | none => rfl
  | some i =>
    simp only [Option.bind_some, Option.map_map]
    cases stored : p.options_[i]? with
    | none => rfl
    | some o =>
      simp only [Option.map_some, Function.comp]
      congr 2
      apply foldl_mention
      intro text member
      obtain ⟨⟨j,mention⟩,listed,addressed⟩ := List.mem_filterMap.mp member
      by_cases here : j = i
      · subst here
        obtain rfl : mention = some text := by simpa using addressed
        obtain ⟨name',o',a,known,read⟩ := texts j text listed
        obtain ⟨o'',_,rfl,stored'⟩ := resolve_of_signature known
        cases stored.symm.trans stored'
        exact ⟨a, by rw [← shape_parse_arg]; exact read⟩
      · simp [here] at addressed

end Recording

section Results

/-- A parse accepts a command line exactly when it is made of valid words, and then in one way
only. A second parse without a reset is not accepted. -/
theorem parse_accepts_iff (p : Parser) (argv : List Text) : (p.parse real argv).1 = .ok () ↔
    p.parsed_ = false ∧ ∃! line : Line, line.Valid real p.signature ∧ argv.drop 1 = line.spell := by
  cases unparsed : p.parsed_ with
  | true => simp [Parser.parse,unparsed]
  | false =>
    constructor
    · intro accepted
      obtain ⟨account,result,outcome⟩ := outcome_exists real p.signature (argv.drop 1)
      rw [parse_outcome real unparsed outcome] at accepted
      cases result with
      | some e => cases accepted
      | none =>
        obtain ⟨line,valid,spelled,_⟩ := line_of_outcome real outcome
        refine ⟨rfl, line, ⟨valid,spelled⟩, ?_⟩
        rintro line' ⟨valid',spelled'⟩
        exact line_unique valid' valid (spelled'.symm.trans spelled)
    · rintro ⟨_,line,⟨valid,spelled⟩,_⟩
      have outcome := outcome_line real p.signature valid
      rw [← spelled] at outcome
      rw [parse_outcome real unparsed outcome]
      rfl

/-- What can be asked of a parser that has accepted a line with this account. -/
structure Recorded (before : Parser) (account : Account) (after : Parser) : Prop where
  rest_args : after.rest_args = .ok (before.rest_args_ ++ account.leaves)
  undefined : after.exists_undefined_options = (before.exists_undefined_ || account.undefined)
  options : ∀ name, after.resolve name = (before.resolve name).map (fun found =>
    (found.1, found.2.recorded real (Cells.addressed found.1 account.mentions)))

/-- A line that is accepted leaves every option with the last text it was given under any of its
names and in any spelling, or as it was; what is no option, unknown options and what follows
a double dash are left over in order. -/
theorem line_is_recorded {p : Parser} (unparsed : p.parsed_ = false) {line : Line}
    (valid : line.Valid real p.signature) (command : Text) :
    Recorded real p (line.account p.signature) (p.parse real (command :: line.spell)).2 := by
  have outcome := outcome_line real p.signature valid
  have parsed : p.parse real (command :: line.spell) = _ := parse_outcome real unparsed outcome
  rw [parsed]
  constructor
  · rfl
  · rfl
  · intro name
    exact resolve_apply real (p := { p with args_ := command :: line.spell }) (textsRead_outcome real outcome) name

theorem port_given_twice :
    let line : Line := ⟨[.named (.short 'p') (some "12".toList), .plain "x".toList, .unknown (.long "quiet".toList),
      .equals "bro-port".toList "13".toList], some ["-c".toList]⟩
    Recorded (fun _ => none) .main (line.account Parser.main.signature)
      (Parser.main.parse (fun _ => none) ("bro-spotd".toList :: line.spell)).2 := by
  intro line
  have valid : line.Valid (fun _ => none) Parser.main.signature := by
    intro w member
    simp only [line, List.mem_cons, List.not_mem_nil, or_false] at member
    rcases member with rfl | rfl | rfl | rfl
    · exact ⟨show 'p' ≠ '-' by decide, 2, _, .INTEGER 12, rfl, by decide⟩
    · show "x".toList.head? ≠ some '-'
      decide
    · exact ⟨⟨by decide, by decide⟩, by decide⟩
    · exact ⟨by decide, by decide, 2, _, .INTEGER 13, rfl, by decide⟩
  exact line_is_recorded (fun _ => none) rfl valid _

/-- Valid words, then something that is refused: the error and the account up to it. -/
def StopsAt (sig : Signature) (args : List Text) (e : Error) (account : Account) : Prop :=
  ∃ (words : List Word) (arg : Text) (rest : List Text) (refusal : Account),
    (∀ w ∈ words, w.Valid real sig) ∧ args = words.flatMap Word.spell ++ arg :: rest ∧
    Refusal real sig arg rest e refusal ∧ account = (words.map (Word.account sig)).foldr Account.append refusal

theorem outcome_refused_iff (sig : Signature) (args : List Text) (e : Error) (account : Account) :
    Outcome real sig args account (some e) ↔ StopsAt real sig args e account := by
  constructor
  · intro outcome
    generalize refused : some e = result at outcome
    induction outcome with
    | done => cases refused
    | dashes => cases refused
    | @word w args account result valid later ih =>
      obtain ⟨words,arg,rest,refusal,each,rfl,stopped,rfl⟩ := ih refused
      refine ⟨w :: words, arg, rest, refusal, ?_, by simp, stopped, rfl⟩
      intro w' member
      rcases List.mem_cons.mp member with rfl | member
      · exact valid
      · exact each w' member
    | refused stopped =>
      cases refused
      exact ⟨[], _, _, _, by simp, rfl, stopped, rfl⟩
  · rintro ⟨words,arg,rest,refusal,each,rfl,stopped,rfl⟩
    induction words with
    | nil => exact .refused stopped
    | cons w words ih =>
      have later := ih (fun w' member => each w' (List.mem_cons_of_mem _ member))
      have line := Outcome.word (each w List.mem_cons_self) later
      simpa using line

/-- A parse refuses a line exactly when valid words come before something that it refuses, with
an error about the argument where it stops. The words before it have had their effect and the
parser counts as unparsed. -/
theorem parse_refuses_iff {p : Parser} (unparsed : p.parsed_ = false) (argv : List Text) (e : Error) :
    ((p.parse real argv).1 = .error e ↔ ∃ account, StopsAt real p.signature (argv.drop 1) e account) ∧
    ∀ account, StopsAt real p.signature (argv.drop 1) e account →
      (p.parse real argv).2 = p.parsed real argv account (some e) := by
  have stops : ∀ account, StopsAt real p.signature (argv.drop 1) e account →
      p.parse real argv = (.error e, p.parsed real argv account (some e)) := by
    intro account stopped
    exact parse_outcome real unparsed ((outcome_refused_iff real _ _ e account).mpr stopped)
  refine ⟨⟨?_, ?_⟩, ?_⟩
  · intro raised
    obtain ⟨account,result,outcome⟩ := outcome_exists real p.signature (argv.drop 1)
    rw [parse_outcome real unparsed outcome] at raised
    obtain rfl : result = some e := by
      cases result with
      | none => cases raised
      | some e' => cases raised; rfl
    exact ⟨account, (outcome_refused_iff real _ _ e account).mp outcome⟩
  · rintro ⟨account,stopped⟩
    rw [stops account stopped]
  · intro account stopped
    rw [stops account stopped]

/-- The port's text is no integer: the config file before it is set, the parser unparsed. -/
theorem bad_port_refused :
    (Parser.main.parse (fun _ => none) ["bro-spotd".toList, "-ca.ini".toList, "-p".toList, "http".toList]).1 =
      .error (.runtime_error "cast failed: 'http' to integer") := by
  refine ((parse_refuses_iff (fun _ => none) (p := .main) rfl _ _).1).mpr ⟨_, [.joined 'c' "a.ini".toList],
    "-p".toList, ["http".toList], .empty, ?_, rfl, ?_, rfl⟩
  · intro w member
    obtain rfl := List.mem_singleton.mp member
    exact ⟨by decide, by decide, 0, _, .STRING "a.ini".toList, rfl, rfl⟩
  · have proper : Head.Proper (.short 'p') := show 'p' ≠ '-' by decide
    exact .unread proper (i := 2) rfl rfl (by decide)

end Results

end BroSpotd.Cola
