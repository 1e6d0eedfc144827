import BroSpotd.CommandLine

/-! The parser against the meaning of command lines. Each argument has one of six forms; on
each form a turn of the loop either reads a word and applies its account, or refuses. -/
namespace BroSpotd.Cola

variable (real : Text → Option Double)

/-- What an argument can look like. -/
inductive Form : Text → Prop where
  | plain {arg} : arg.head? ≠ some '-' → Form arg
  | dash : Form ['-']
  | terminator : Form ['-','-']
  | head {h} : Head.Proper h → Form h.arg
  | equals {name text} : '=' ∉ name → Form (equalsArg name text)
  | cluster {cs} : 2 ≤ cs.length → cs.head? ≠ some '-' → Form ('-' :: cs)

theorem form (arg : Text) : Form arg := by
  rcases arg with _ | ⟨first,rest⟩
  · exact .plain (by simp)
  by_cases dashed : first = '-'
  case neg => exact .plain (by simpa using dashed)
  subst dashed
  rcases rest with _ | ⟨second,more⟩
  · exact .dash
  by_cases double : second = '-'
  · subst double
    by_cases written : '=' ∈ more
    · obtain ⟨name,text,rfl,before⟩ := List.eq_append_cons_of_mem written
      exact .equals before
    · rcases more with _ | ⟨c,name⟩
      · exact .terminator
      · exact .head (h := .long (c :: name)) ⟨by simp, written⟩
  · rcases more with _ | ⟨third,more⟩
    · exact .head (h := .short second) double
    · exact .cluster (by simp) (by simpa using double)

section Judging

theorem judge_plain {arg : Text} (plain : arg.head? ≠ some '-') : Parser.judge arg = .ELSE := by
  unfold Parser.judge
  split <;> simp_all

theorem judge_equals (name text : Text) : Parser.judge (equalsArg name text) = .LONG_ARG := by
  cases name <;> simp [equalsArg,Parser.judge]

theorem judge_long {name : Text} (proper : Head.Proper (.long name)) :
    Parser.judge ('-' :: '-' :: name) = .LONG := by
  obtain ⟨named,unwritten⟩ := proper
  cases name with
  | nil => exact absurd rfl named
  | cons c name =>
    have absent : '=' ∉ '-' :: '-' :: c :: name := by simpa using unwritten
    simp [Parser.judge,absent]

theorem judge_short {c : Char} (proper : Head.Proper (.short c)) : Parser.judge ['-',c] = .SHORT := by
  have other : c ≠ '-' := proper
  simp [Parser.judge,other]

theorem judge_cluster {cs : Text} (two : 2 ≤ cs.length) (letter : cs.head? ≠ some '-') :
    Parser.judge ('-' :: cs) = .SHORTS := by
  rcases cs with _ | ⟨c,_ | ⟨d,cs⟩⟩
  · simp at two
  · simp at two
  · have other : c ≠ '-' := by simpa using letter
    simp [Parser.judge,other]

end Judging

section Evaluating

variable {real} {p : Parser} {name text arg : Text} {i : Nat} {o : ParserOption}

theorem get_option_known (known : p.signature name = some (i,o)) :
    ∃ o', p.get_option name = .ok (i,o') ∧ o'.shape = o ∧ p.options_[i]? = some o' := by
  obtain ⟨o',found,shaped,stored⟩ := resolve_of_signature known
  exact ⟨o', by simp [Parser.get_option,found], shaped, stored⟩

theorem get_option_undefined (unknown : p.signature name = none) :
    p.get_option name = .error (.logic_error (quoted "an option " (make_arg name) " is undefined")) := by
  have missing := (resolve_none_iff p name).mpr unknown
  simp [Parser.get_option,missing]

/-- The option takes a text that it reads, and refuses another. -/
theorem take_arg_eq (real : Text → Option Double) (stored : p.options_[i]? = some o) (taken : Nat) :
    p.take_arg real taken i o text = match o.parse_arg real text with
      | .error e => (.error e, p)
      | .ok _ => (.ok taken, p.apply real (.mention i (some text))) := by
  unfold Parser.take_arg
  cases read : o.parse_arg real text with
  | error e => rfl
  | ok a => simp only [assign_passed_eq real stored read]

theorem push_undefined_eq (real : Text → Option Double) (arg : Text) (p : Parser) :
    p.push_undefined arg = p.apply real (.unknown arg) := by
  apply Parser.same <;> simp [Parser.push_undefined,Parser.apply,Account.unknown]

theorem push_rest_eq (real : Text → Option Double) (arg : Text) (p : Parser) :
    p.push_rest arg = p.apply real (.leave [arg]) := by
  apply Parser.same <;> simp [Parser.push_rest,Parser.apply,Account.leave]

theorem eval_option_undefined (unknown : p.signature name = none) (rest : List Text) :
    p.eval_option real name arg rest = (.ok 0, p.apply real (.unknown arg)) := by
  simp [Parser.eval_option,is_defined_iff,unknown,push_undefined_eq real]

theorem eval_option_flag (known : p.signature name = some (i,o)) (flag : o.has_arg = false) (rest : List Text) :
    p.eval_option real name arg rest = (.ok 0, p.apply real (.mention i none)) := by
  obtain ⟨o',found,rfl,_⟩ := get_option_known known
  rw [shape_has_arg] at flag
  simp [Parser.eval_option,is_defined_iff,known,found,flag,passed_eq real]

theorem eval_option_missing (real : Text → Option Double) (known : p.signature name = some (i,o))
    (takes : o.has_arg = true) : p.eval_option real name arg [] = (.error (Parser.needs_argument arg), p) := by
  obtain ⟨o',found,rfl,_⟩ := get_option_known known
  rw [shape_has_arg] at takes
  simp [Parser.eval_option,is_defined_iff,known,found,takes]

theorem eval_option_text (known : p.signature name = some (i,o)) (takes : o.has_arg = true) (rest : List Text) :
    p.eval_option real name arg (text :: rest) = match o.parse_arg real text with
      | .error e => (.error e, p)
      | .ok _ => (.ok 1, p.apply real (.mention i (some text))) := by
  obtain ⟨o',found,rfl,stored⟩ := get_option_known known
  rw [shape_has_arg] at takes
  simp [Parser.eval_option,is_defined_iff,known,found,takes,take_arg_eq real stored]

theorem eval_joined {c : Char} (known : p.signature [c] = some (i,o)) (takes : o.has_arg = true) :
    p.eval_shorts_option real ('-' :: c :: text) = match o.parse_arg real text with
      | .error e => (.error e, p)
      | .ok _ => (.ok 0, p.apply real (.mention i (some text))) := by
  obtain ⟨o',found,rfl,stored⟩ := get_option_known known
  rw [shape_has_arg] at takes
  simp [Parser.eval_shorts_option,found,takes,take_arg_eq real stored]

/-- Where the first letter takes no argument or is undefined, the letters go one by one. -/
theorem eval_letters {c : Char} {cs : Text} (single : ∀ i o, p.signature [c] = some (i,o) → o.has_arg = false) :
    p.eval_shorts_option real ('-' :: c :: cs) = Parser.pass_letters (c :: cs) p := by
  cases known : p.signature [c] with
  | none => simp [Parser.eval_shorts_option,Parser.pass_letters,get_option_undefined known]
  | some found =>
    obtain ⟨i,o⟩ := found
    have flag := single i o known
    obtain ⟨o',found,rfl,_⟩ := get_option_known known
    rw [shape_has_arg] at flag
    simp [Parser.eval_shorts_option,found,flag]

theorem split_equals (unwritten : '=' ∉ name) (text : Text) :
    (name ++ '=' :: text).takeWhile (fun c => c ≠ '=') = name ∧
    ((name ++ '=' :: text).dropWhile (fun c => c ≠ '=')).drop 1 = text := by
  have inside : ∀ c ∈ name, decide (c ≠ '=') = true := by
    intro c member
    simp only [decide_eq_true_eq]
    rintro rfl
    exact unwritten member
  rw [List.takeWhile_append_of_pos inside, List.dropWhile_append_of_pos inside]
  simp

theorem eval_equals_undefined (unwritten : '=' ∉ name) (unknown : p.signature name = none) :
    p.eval_long_param_option real (equalsArg name text) = (.ok 0, p.apply real (.unknown (equalsArg name text))) := by
  obtain ⟨before,_⟩ := split_equals unwritten text
  simp only [Parser.eval_long_param_option, equalsArg, List.drop_succ_cons, List.drop_zero, before, is_defined_iff,
    unknown]
  simp [push_undefined_eq real]

theorem eval_equals_empty (unwritten : '=' ∉ name) (known : p.signature name = some (i,o)) :
    p.eval_long_param_option real (equalsArg name []) = (.error (Parser.needs_argument name), p) := by
  obtain ⟨before,after⟩ := split_equals unwritten []
  obtain ⟨o',found,_⟩ := get_option_known known
  simp only [Parser.eval_long_param_option, equalsArg, List.drop_succ_cons, List.drop_zero, before, after,
    is_defined_iff, known, found]
  simp

theorem eval_equals_text (unwritten : '=' ∉ name) (known : p.signature name = some (i,o)) (written : text ≠ []) :
    p.eval_long_param_option real (equalsArg name text) = match o.parse_arg real text with
      | .error e => (.error e, p)
      | .ok _ => (.ok 0, p.apply real (.mention i (some text))) := by
  obtain ⟨before,after⟩ := split_equals unwritten text
  obtain ⟨o',found,rfl,stored⟩ := get_option_known known
  simp only [Parser.eval_long_param_option, equalsArg, List.drop_succ_cons, List.drop_zero, before, after,
    is_defined_iff, known, found, take_arg_eq real stored, shape_parse_arg]
  simp [written]

end Evaluating

section Letters

variable {real} {p : Parser} {i : Nat} {o : ParserOption}

theorem lettersAccount_cons (sig : Signature) (c : Char) (cs : Text) :
    lettersAccount sig (c :: cs) = (mentionOf sig [c] none).append (lettersAccount sig cs) := rfl

/-- Flags pass, each of them mentioned, and the loop goes on behind them. -/
theorem pass_flags (real : Text → Option Double) {cs : Text} (flags : ∀ c ∈ cs, IsFlag p.signature [c])
    (after : Text) : Parser.pass_letters (cs ++ after) p =
      Parser.pass_letters after (p.apply real (lettersAccount p.signature cs)) := by
  induction cs generalizing p with
  | nil => rw [show lettersAccount p.signature [] = .empty from rfl, apply_empty]; rfl
  | cons c cs ih =>
    obtain ⟨i,o,known,flag⟩ := flags c List.mem_cons_self
    obtain ⟨o',found,rfl,_⟩ := get_option_known known
    rw [shape_has_arg] at flag
    have one : Parser.pass_letters (c :: (cs ++ after)) p =
        Parser.pass_letters (cs ++ after) (p.apply real (.mention i none)) := by
      simp [Parser.pass_letters,found,flag,passed_eq real]
    rw [List.cons_append, one, ih, signature_apply, lettersAccount_cons, apply_append]
    · simp only [mentionOf, known]
    · intro d member
      rw [signature_apply]
      exact flags d (List.mem_cons_of_mem _ member)

/-- The letters are all flags, or one is not and those before it are. -/
theorem letters_split (flag : Char → Prop) (cs : Text) : (∀ c ∈ cs, flag c) ∨
    ∃ before c after, cs = before ++ c :: after ∧ (∀ b ∈ before, flag b) ∧ ¬ flag c := by
  induction cs with
  | nil => exact .inl (by simp)
  | cons d cs ih =>
    by_cases fine : flag d
    · rcases ih with all | ⟨before,c,after,rfl,flags,bad⟩
      · exact .inl (by simpa using ⟨fine,all⟩)
      · exact .inr ⟨d :: before, c, after, rfl, by simpa using ⟨fine,flags⟩, bad⟩
    · exact .inr ⟨[], d, cs, rfl, by simp, fine⟩

end Letters

section Turns

variable {real} {p : Parser}

theorem turn_head {head : Head} (proper : head.Proper) (rest : List Text) :
    Parser.turn real head.arg rest p = p.eval_option real head.name head.arg rest := by
  cases head with
  | short c => simp [Parser.turn,Head.arg,Head.name,judge_short proper,Parser.eval_short_option]
  | long name => simp [Parser.turn,Head.arg,Head.name,judge_long proper,Parser.eval_long_option]

theorem turn_cluster {cs : Text} (two : 2 ≤ cs.length) (letter : cs.head? ≠ some '-') (rest : List Text) :
    Parser.turn real ('-' :: cs) rest p = p.eval_shorts_option real ('-' :: cs) := by
  simp [Parser.turn,judge_cluster two letter]

theorem turn_equals (name text : Text) (rest : List Text) :
    Parser.turn real (equalsArg name text) rest p = p.eval_long_param_option real (equalsArg name text) := by
  simp [Parser.turn,judge_equals]

/-- An option that reads a text takes an argument. -/
theorem has_arg_of_parse {o : ParserOption} {text : Text} {a : Argument} (read : o.parse_arg real text = .ok a) :
    o.has_arg = true := by
  obtain ⟨member,_,_,_⟩ := o
  cases member with
  | FLAG => cases read
  | _ => rfl

/-- A turn on a valid word takes its arguments and applies its account. -/
theorem turn_word {w : Word} (valid : w.Valid real p.signature) : ∃ arg taken, w.spell = arg :: taken ∧
    ∀ more, Parser.turn real arg (taken ++ more) p = (.ok taken.length, p.apply real (w.account p.signature)) := by
  cases w with
  | plain arg =>
    refine ⟨arg, [], rfl, fun more => ?_⟩
    simp [Parser.turn,judge_plain valid,push_rest_eq real,Word.account]
  | dash =>
    refine ⟨['-'], [], rfl, fun more => ?_⟩
    simp [Parser.turn,Parser.judge,Word.account]
  | named head text =>
    cases text with
    | none =>
      obtain ⟨proper,i,o,known,flag⟩ := valid
      refine ⟨head.arg, [], rfl, fun more => ?_⟩
      rw [turn_head proper, eval_option_flag known flag]
      simp [Word.account,mentionOf,known]
    | some text =>
      obtain ⟨proper,i,o,a,known,read⟩ := valid
      refine ⟨head.arg, [text], rfl, fun more => ?_⟩
      rw [turn_head proper, List.singleton_append, eval_option_text known (has_arg_of_parse read)]
      simp [Word.account,mentionOf,known,read]
  | joined c text =>
    obtain ⟨other,written,i,o,a,known,read⟩ := valid
    refine ⟨'-' :: c :: text, [], rfl, fun more => ?_⟩
    have two : 2 ≤ (c :: text).length := by
      have := List.length_pos_of_ne_nil written
      simp only [List.length_cons]
      omega
    rw [turn_cluster two (by simpa using other), eval_joined known (has_arg_of_parse read)]
    simp [Word.account,mentionOf,known,read]
  | equals name text =>
    obtain ⟨unwritten,written,i,o,a,known,read⟩ := valid
    refine ⟨equalsArg name text, [], rfl, fun more => ?_⟩
    rw [turn_equals, eval_equals_text unwritten known written]
    simp [Word.account,mentionOf,known,read]
  | letters cs =>
    obtain ⟨two,letter,flags⟩ := valid
    refine ⟨'-' :: cs, [], rfl, fun more => ?_⟩
    cases cs with
    | nil => simp at two
    | cons c cs =>
      obtain ⟨i,o,known,flag⟩ := flags c List.mem_cons_self
      have single : ∀ i' o', p.signature [c] = some (i',o') → o'.has_arg = false := by
        intro i' o' same
        cases known.symm.trans same
        exact flag
      rw [turn_cluster two letter, eval_letters single]
      simpa [Parser.pass_letters,Word.account] using pass_flags real flags []
  | unknown head =>
    obtain ⟨proper,unknown⟩ := valid
    refine ⟨head.arg, [], rfl, fun more => ?_⟩
    rw [turn_head proper, eval_option_undefined unknown]
    rfl
  | unknown_equals name text =>
    obtain ⟨unwritten,unknown⟩ := valid
    refine ⟨equalsArg name text, [], rfl, fun more => ?_⟩
    rw [turn_equals, eval_equals_undefined unwritten unknown]
    rfl

/-- A turn on what is refused raises the error; the flags before a failing letter have passed. -/
theorem turn_refusal {arg : Text} {rest : List Text} {e : Error} {account : Account}
    (refused : Refusal real p.signature arg rest e account) :
    Parser.turn real arg rest p = (.error e, p.apply real account) := by
  cases refused with
  | missing proper known takes =>
    rw [turn_head proper, eval_option_missing real known takes, apply_empty]
  | unread proper known takes raised =>
    rw [turn_head proper, eval_option_text known takes, raised, apply_empty]
  | unread_joined other written known takes raised =>
    rename_i c i o text
    have two : 2 ≤ (c :: text).length := by
      have := List.length_pos_of_ne_nil written
      simp only [List.length_cons]
      omega
    rw [turn_cluster two (by simpa using other), eval_joined known takes, raised, apply_empty]
  | unread_equals unwritten written known raised =>
    rw [turn_equals, eval_equals_text unwritten known written, raised, apply_empty]
  | nothing_after_equals unwritten known =>
    rw [turn_equals, eval_equals_empty unwritten known, apply_empty]
  | undefined_letter two letter flags unknown =>
    rename_i before c after
    have raised : Parser.pass_letters (before ++ c :: after) p =
        (.error (.logic_error (quoted "an option " (make_arg [c]) " is undefined")),
          p.apply real (lettersAccount p.signature before)) := by
      have gone : (p.apply real (lettersAccount p.signature before)).signature [c] = none := by
        rw [signature_apply]; exact unknown
      rw [pass_flags real flags]
      simp [Parser.pass_letters,get_option_undefined gone]
    rw [turn_cluster two letter, ← raised]
    cases before with
    | nil =>
      apply eval_letters
      intro i o known
      cases known.symm.trans unknown
    | cons b before =>
      apply eval_letters
      intro i o known
      obtain ⟨i',o',flagged,flag⟩ := flags b List.mem_cons_self
      cases known.symm.trans flagged
      exact flag
  | letter_with_argument some_before letter flags known takes =>
    rename_i before c after i o
    cases before with
    | nil => exact absurd rfl some_before
    | cons b before =>
      have single : ∀ i o, p.signature [b] = some (i,o) → o.has_arg = false := by
        intro i o known
        obtain ⟨i',o',flagged,flag⟩ := flags b List.mem_cons_self
        cases known.symm.trans flagged
        exact flag
      have kept : (p.apply real (lettersAccount p.signature (b :: before))).signature [c] = some (i,o) := by
        rw [signature_apply]; exact known
      obtain ⟨o',found,rfl,_⟩ := get_option_known kept
      rw [shape_has_arg] at takes
      have two : 2 ≤ (b :: before ++ c :: after).length := by simp; omega
      rw [turn_cluster two (by simpa using letter), List.cons_append, eval_letters single, ← List.cons_append,
        pass_flags real flags]
      simp [Parser.pass_letters,found,takes]

/-- What stands in front is a double dash, a valid word or something that is refused. -/
theorem word_or_refusal (real : Text → Option Double) (sig : Signature) (arg : Text) (rest : List Text) :
    arg = ['-','-'] ∨
    (∃ w taken more, Word.Valid real sig w ∧ w.spell = arg :: taken ∧ rest = taken ++ more) ∨
    ∃ e account, Refusal real sig arg rest e account := by
  cases form arg with
  | plain plain => exact .inr (.inl ⟨.plain arg, [], rest, plain, rfl, rfl⟩)
  | dash => exact .inr (.inl ⟨.dash, [], rest, trivial, rfl, rfl⟩)
  | terminator => exact .inl rfl
  | head proper =>
    rename_i head
    refine .inr ?_
    cases known : sig head.name with
    | none => exact .inl ⟨.unknown head, [], rest, ⟨proper,known⟩, rfl, rfl⟩
    | some found =>
      obtain ⟨i,o⟩ := found
      cases takes : o.has_arg with
      | false => exact .inl ⟨.named head none, [], rest, ⟨proper,i,o,known,takes⟩, rfl, rfl⟩
      | true =>
        cases rest with
        | nil => exact .inr ⟨_, _, .missing proper known takes⟩
        | cons text more =>
          cases read : o.parse_arg real text with
          | error e => exact .inr ⟨_, _, .unread proper known takes read⟩
          | ok a => exact .inl ⟨.named head (some text), [text], more, ⟨proper,i,o,a,known,read⟩, rfl, rfl⟩
  | equals unwritten =>
    rename_i name text
    refine .inr ?_
    cases known : sig name with
    | none => exact .inl ⟨.unknown_equals name text, [], rest, ⟨unwritten,known⟩, rfl, rfl⟩
    | some found =>
      obtain ⟨i,o⟩ := found
      by_cases written : text = []
      · subst written
        exact .inr ⟨_, _, .nothing_after_equals unwritten known⟩
      · cases read : o.parse_arg real text with
        | error e => exact .inr ⟨_, _, .unread_equals unwritten written known read⟩
        | ok a => exact .inl ⟨.equals name text, [], rest, ⟨unwritten,written,i,o,a,known,read⟩, rfl, rfl⟩
  | cluster two letter =>
    rename_i cs
    refine .inr ?_
    rcases letters_split (fun c => IsFlag sig [c]) cs with flags | ⟨before,c,after,rfl,flags,bad⟩
    · exact .inl ⟨.letters cs, [], rest, ⟨two,letter,flags⟩, rfl, rfl⟩
    cases known : sig [c] with
    | none => exact .inr ⟨_, _, .undefined_letter two letter flags known⟩
    | some found =>
      obtain ⟨i,o⟩ := found
      have takes : o.has_arg = true := by
        cases flag : o.has_arg with
        | true => rfl
        | false => exact absurd ⟨i,o,known,flag⟩ bad
      cases before with
      | cons b before => exact .inr ⟨_, _, .letter_with_argument (by simp) (by simpa using letter) flags known takes⟩
      | nil =>
        -- the first letter takes what follows it
        have written : after ≠ [] := by rintro rfl; simp at two
        cases read : o.parse_arg real after with
        | error e => exact .inr ⟨_, _, .unread_joined (by simpa using letter) written known takes read⟩
        | ok a => exact .inl ⟨.joined c after, [], rest, ⟨by simpa using letter,written,i,o,a,known,read⟩, rfl, rfl⟩

end Turns

end BroSpotd.Cola
