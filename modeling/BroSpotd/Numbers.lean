import BroSpotd.Cola

/-! Integers as text. The command line parser prints ints and reads them, alone or as the items
of a vector. What is printed reads back, where the delimiter of the vector allows it. -/
namespace BroSpotd

namespace Cola

/-- `parser::to_string` of an int; `std::to_string` gives the same. -/
def to_string (n : Int32) : Text := (toString n.toInt).toList

theorem decimal_toDigits (n : Nat) : decimal (Nat.toDigits 10 n) = n := Nat.ofDigitChars_ten_toDigits

theorem digit_bounds {c : Char} (digit : c.isDigit = true) : 48 ≤ c.toNat ∧ c.toNat ≤ 57 := by
  simp only [Char.isDigit, Bool.and_eq_true, decide_eq_true_eq, ge_iff_le, UInt32.le_iff_toNat_le] at digit
  exact digit

theorem not_space_of_digit {c : Char} (digit : c.isDigit = true) : isspace c = false := by
  have := digit_bounds digit
  have space : c ≠ ' ' := by
    rintro rfl
    exact absurd digit (by decide)
  simp only [isspace, space, decide_false, Bool.false_or, Bool.and_eq_false_iff, decide_eq_false_iff_not]
  omega

theorem signed_digits {digits : Text} (all : digits.all Char.isDigit = true) : signed digits = (1, digits) := by
  cases digits with
  | nil => rfl
  | cons c rest =>
    have digit : c.isDigit = true := by simp at all; exact all.1
    unfold signed
    split
    · next same => cases same; exact absurd digit (by decide)
    · next same => cases same; exact absurd digit (by decide)
    · rfl

/-- The signs that are read, with their factors. -/
inductive Sign : Text → Int → Prop
  | none : Sign [] 1
  | plus : Sign ['+'] 1
  | minus : Sign ['-'] (-1)

theorem signed_sign {sign digits : Text} {factor : Int} (signs : Sign sign factor)
    (all : digits.all Char.isDigit = true) : signed (sign ++ digits) = (factor, digits) := by
  cases signs with
  | none => exact signed_digits all
  | plus => rfl
  | minus => rfl

theorem sign_of_signed (text : Text) : ∃ sign, Sign sign (signed text).1 ∧ text = sign ++ (signed text).2 := by
  unfold signed
  split
  · exact ⟨_, .minus, rfl⟩
  · exact ⟨_, .plus, rfl⟩
  · exact ⟨_, .none, rfl⟩

theorem not_blank {sign digits : Text} {factor : Int} (signs : Sign sign factor) (some_digits : digits ≠ [])
    (all : digits.all Char.isDigit = true) : (sign ++ digits).dropWhile isspace = sign ++ digits := by
  cases signs with
  | none =>
    obtain ⟨c,rest,rfl⟩ := List.exists_cons_of_ne_nil some_digits
    have digit : c.isDigit = true := List.all_eq_true.mp all c List.mem_cons_self
    simp [not_space_of_digit digit]
  | plus => rfl
  | minus => rfl

/-- `ss >> ret && ss.eof()` on an int takes white space, a sign or none, and digits to the end,
of a number that fits. -/
theorem from_string_integer_iff (value : Text) (n : Int32) : from_string_integer value = .ok n ↔
    ∃ spaces sign digits factor, value = spaces ++ (sign ++ digits) ∧ spaces.all isspace = true ∧
      Sign sign factor ∧ digits ≠ [] ∧ digits.all Char.isDigit = true ∧ n.toInt = factor * decimal digits := by
  constructor
  · intro read
    obtain ⟨sign,signs,parts⟩ := sign_of_signed (value.dropWhile isspace)
    simp only [from_string_integer] at read
    split at read
    · next fits =>
      obtain ⟨some_digits,all,low,high⟩ := fits
      refine ⟨value.takeWhile isspace, sign, _, _, ?_, List.all_takeWhile, signs, some_digits, all, ?_⟩
      · rw [← parts, List.takeWhile_append_dropWhile]
      · rw [← Except.ok.inj read]
        exact Int32.toInt_ofInt_of_le low high
    · cases read
  · rintro ⟨spaces,sign,digits,factor,rfl,blank,signs,some_digits,all,same⟩
    have skipped : (spaces ++ (sign ++ digits)).dropWhile isspace = sign ++ digits := by
      rw [List.dropWhile_append_of_pos (List.all_eq_true.mp blank)]
      exact not_blank signs some_digits all
    have low := n.le_toInt
    have high := n.toInt_lt
    have fits : digits ≠ [] ∧ digits.all Char.isDigit ∧ -2^31 ≤ n.toInt ∧ n.toInt < 2^31 :=
      ⟨some_digits, all, low, high⟩
    simp only [from_string_integer, skipped, signed_sign signs all, ← same]
    rw [if_pos fits, Int32.ofInt_toInt]

theorem to_string_cases (n : Int32) :
    (0 ≤ n.toInt ∧ to_string n = Nat.toDigits 10 n.toInt.toNat) ∨
    (n.toInt < 0 ∧ to_string n = '-' :: Nat.toDigits 10 (-n.toInt).toNat) := by
  unfold to_string
  rw [Int.toString_eq_repr]
  cases n.toInt with
  | ofNat k => exact .inl ⟨Int.natCast_nonneg k, by simp [Int.repr]⟩
  | negSucc k => exact .inr ⟨Int.negSucc_lt_zero k, by simp [Int.repr]⟩

theorem all_digits (n : Nat) : (Nat.toDigits 10 n).all Char.isDigit = true := by
  simp only [List.all_eq_true]
  intro c member
  exact Nat.isDigit_of_mem_toDigits (by decide) (by decide) member

/-- What is printed reads back. -/
theorem integer_round_trip (n : Int32) : from_string_integer (to_string n) = .ok n := by
  rw [from_string_integer_iff]
  obtain ⟨positive,text⟩ | ⟨negative,text⟩ := to_string_cases n
  · refine ⟨[], [], Nat.toDigits 10 n.toInt.toNat, 1, text, rfl, .none, Nat.toDigits_ne_nil, all_digits _, ?_⟩
    rw [decimal_toDigits]
    omega
  · refine ⟨[], ['-'], Nat.toDigits 10 (-n.toInt).toNat, -1, text, rfl, .minus, Nat.toDigits_ne_nil, all_digits _, ?_⟩
    rw [decimal_toDigits]
    omega

theorem to_string_ne_nil (n : Int32) : to_string n ≠ [] := by
  obtain ⟨-,text⟩ | ⟨-,text⟩ := to_string_cases n
  · rw [text]
    exact Nat.toDigits_ne_nil
  · rw [text]
    exact List.cons_ne_nil _ _

theorem mem_to_string {n : Int32} {c : Char} (member : c ∈ to_string n) : c = '-' ∨ c.isDigit = true := by
  obtain ⟨-,text⟩ | ⟨-,text⟩ := to_string_cases n
  · rw [text] at member
    exact .inr (Nat.isDigit_of_mem_toDigits (by decide) (by decide) member)
  · rw [text] at member
    obtain rfl | member := List.mem_cons.mp member
    · exact .inl rfl
    · exact .inr (Nat.isDigit_of_mem_toDigits (by decide) (by decide) member)

/-- Items as they are handed to an option: joined by its delimiter. -/
def joined (delim : Char) (items : List Text) : Text := [delim].intercalate items

/-- Non-empty items that do not hold the delimiter are found again. -/
theorem items_round_trip {delim : Char} {items : List Text} (solid : ∀ item ∈ items, item ≠ [] ∧ delim ∉ item) :
    ((joined delim items).splitOn delim).filter (fun item => item ≠ []) = items := by
  cases items with
  | nil => rfl
  | cons first rest =>
    rw [joined, List.splitOn_intercalate delim (fun item member => (solid item member).2) (List.cons_ne_nil _ _)]
    exact List.filter_eq_self.mpr (fun item member => decide_eq_true (solid item member).1)

theorem mapM_round_trip {T : Type} {print : T → Text} {from_string : Text → Except Error T}
    (back : ∀ t, from_string (print t) = .ok t) (ts : List T) : (ts.map print).mapM from_string = .ok ts := by
  induction ts with
  | nil => rfl
  | cons t ts ih =>
    rw [List.map_cons, List.mapM_cons, back, ih]
    rfl

theorem vector_round_trip {T : Type} {print : T → Text} {from_string : Text → Except Error T} {delim : Char}
    (back : ∀ t, from_string (print t) = .ok t) {ts : List T} (solid : ∀ t ∈ ts, print t ≠ [] ∧ delim ∉ print t) :
    from_string_vector from_string (joined delim (ts.map print)) delim = .ok ts := by
  rw [from_string_vector, items_round_trip]
  · exact mapM_round_trip back ts
  · intro item member
    obtain ⟨t,listed,rfl⟩ := List.mem_map.mp member
    exact solid t listed

theorem not_mem_of_splitOn {delim : Char} {text item : Text} (member : item ∈ text.splitOn delim) : delim ∉ item := by
  induction text generalizing item with
  | nil =>
    obtain rfl : item = [] := by simpa using member
    exact List.not_mem_nil
  | cons c text ih =>
    rw [List.splitOn_cons_eq_if_modifyHead] at member
    split at member
    · obtain rfl | member := List.mem_cons.mp member
      · exact List.not_mem_nil
      · exact ih member
    · next other =>
      obtain ⟨first,rest,parts⟩ := List.exists_cons_of_ne_nil (List.splitOn_ne_nil delim text)
      rw [parts] at ih member
      obtain rfl | member := List.mem_cons.mp member
      · have clear := ih List.mem_cons_self
        intro inside
        obtain rfl | inside := List.mem_cons.mp inside
        · exact other (beq_self_eq_true delim)
        · exact clear inside
      · exact ih (List.mem_cons_of_mem first member)

/-- Strings joined by a delimiter read back exactly when none is empty and none holds it. -/
theorem strings_read_back_iff (delim : Char) (items : List Text) :
    from_string_vector from_string_string (joined delim items) delim = .ok items ↔
      ∀ item ∈ items, item ≠ [] ∧ delim ∉ item := by
  constructor
  · intro read item member
    have itself (t : Text) : from_string_string (id t) = .ok t := rfl
    have pieces := mapM_round_trip itself (((joined delim items).splitOn delim).filter (fun item => item ≠ []))
    rw [List.map_id] at pieces
    rw [from_string_vector, pieces] at read
    rw [← Except.ok.inj read] at member
    obtain ⟨piece,some_text⟩ := List.mem_filter.mp member
    exact ⟨of_decide_eq_true some_text, not_mem_of_splitOn piece⟩
  · intro solid
    have itself (t : Text) : from_string_string (id t) = .ok t := rfl
    have read := vector_round_trip itself solid
    rwa [List.map_id] at read

theorem digit_cases {c : Char} (digit : c.isDigit = true) : ∃ k < 10, c = Char.ofNat (48 + k) := by
  obtain ⟨low,high⟩ := digit_bounds digit
  refine ⟨c.toNat - 48, by omega, ?_⟩
  rw [Nat.add_sub_cancel' low, Char.ofNat_toNat]

/-- A number of one digit is lost where that digit is the delimiter. -/
theorem digit_is_lost : ∀ k < 10, from_string_vector from_string_integer
    (joined (Char.ofNat (48 + k)) [to_string (.ofNat k)]) (Char.ofNat (48 + k)) = .ok [] := by decide

/-- Ints joined by a delimiter read back, whatever they are, exactly when it is neither the
minus sign nor a digit. -/
theorem integers_read_back_iff (delim : Char) :
    (∀ ns, from_string_vector from_string_integer (joined delim (ns.map to_string)) delim = .ok ns) ↔
      delim ≠ '-' ∧ delim.isDigit = false := by
  constructor
  · intro read
    constructor
    · rintro rfl
      exact absurd (read [-1]) (by decide)
    · rw [Bool.eq_false_iff]
      intro digit
      obtain ⟨k,small,rfl⟩ := digit_cases digit
      have lost := digit_is_lost k small
      have kept := read [.ofNat k]
      rw [List.map_singleton, lost] at kept
      cases kept
  · rintro ⟨sign,digit⟩ ns
    apply vector_round_trip integer_round_trip
    intro n _
    refine ⟨to_string_ne_nil n, ?_⟩
    intro inside
    obtain minus | other := mem_to_string inside
    · exact sign minus
    · rw [digit] at other
      cases other

theorem read_iff {T : Type} {member : T → Argument} (inj : Function.Injective member) (read : Except Error T)
    (t : T) : read.map member = .ok (member t) ↔ read = .ok t := by
  cases read with
  | error e => exact ⟨nofun, nofun⟩
  | ok t' =>
    constructor
    · intro same
      rw [inj (Except.ok.inj same)]
    · rintro ⟨⟩
      rfl

/-- An option of ints reads back every list exactly when its delimiter is neither the minus
sign nor a digit; an option of strings reads back exactly the lists without empty items and
items that hold its delimiter. The value that the option had before does not matter. -/
theorem ParserOption.vectors_read_back (real : Text → Option Double) (o : ParserOption) :
    (∀ old, (∀ ns, parse_arg real { o with argument := .IVECTOR old } (joined o.delim_ (ns.map to_string)) =
        .ok (.IVECTOR ns)) ↔ o.delim_ ≠ '-' ∧ o.delim_.isDigit = false) ∧
    ∀ old items, parse_arg real { o with argument := .SVECTOR old } (joined o.delim_ items) =
        .ok (.SVECTOR items) ↔ ∀ item ∈ items, item ≠ [] ∧ o.delim_ ∉ item := by
  constructor
  · intro old
    rw [← integers_read_back_iff]
    exact forall_congr' (fun ns => read_iff (fun _ _ => Argument.IVECTOR.inj) _ ns)
  · intro old items
    rw [← strings_read_back_iff]
    exact read_iff (fun _ _ => Argument.SVECTOR.inj) _ items

end Cola

end BroSpotd
