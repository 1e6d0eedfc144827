import BroSpotd.Callback

/-! What number a payload is, by its Bro type, against the double that the loop reads. -/
namespace BroSpotd

variable {S R : Type}

def IntegerType (type : Int32) : Prop :=
  type = BRO_TYPE_INT ∨ type = BRO_TYPE_COUNT ∨ type = BRO_TYPE_COUNTER

def FloatingType (type : Int32) : Prop :=
  type = BRO_TYPE_DOUBLE ∨ type = BRO_TYPE_TIME ∨ type = BRO_TYPE_INTERVAL

/-- The numeric value of a field: INT is signed, COUNT and COUNTER are not, and the
floating types are stored as doubles. -/
def number (value : BroVal) : Binary64.Value :=
  if value.tag = BRO_TYPE_INT then .finite value.payload.toInt
  else if value.tag = BRO_TYPE_COUNT ∨ value.tag = BRO_TYPE_COUNTER then .finite value.payload.toNat
  else Binary64.decode ⟨value.payload⟩

/-- The magnitude is below 2^53, so the integer is one that a double holds exactly. -/
def Small (value : BroVal) : Prop :=
  if value.tag = BRO_TYPE_INT then value.payload.toInt.natAbs < 2^53 else value.payload.toNat < 2^53

theorem number_floating {value : BroVal} (floating : FloatingType value.tag) :
    number value = Binary64.decode ⟨value.payload⟩ := by
  rcases floating with tag | tag | tag <;>
    simp [number,tag,BRO_TYPE_INT,BRO_TYPE_COUNT,BRO_TYPE_COUNTER,BRO_TYPE_DOUBLE,BRO_TYPE_TIME,
      BRO_TYPE_INTERVAL]

theorem not_floating_of_integer {type : Int32} (integer : IntegerType type) : ¬ FloatingType type := by
  rcases integer with rfl | rfl | rfl <;>
    simp [FloatingType,BRO_TYPE_INT,BRO_TYPE_COUNT,BRO_TYPE_COUNTER,BRO_TYPE_DOUBLE,BRO_TYPE_TIME,
      BRO_TYPE_INTERVAL]

/-- A small integer payload is a word below 2^53 that counts itself, or the two's
complement of a small negative integer, among the top words. -/
theorem integer_payload {value : BroVal} (integer : IntegerType value.tag) (small : Small value) :
    (value.payload.toNat < 2^53 ∧ number value = .finite (value.payload.toNat : ℚ)) ∨
    (2^64 - 2^53 < value.payload.toNat ∧ ∃ n : Int, n < 0 ∧ -2^53 < n ∧ number value = .finite (n : ℚ)) := by
  by_cases signed : value.tag = BRO_TYPE_INT
  · have bound := value.payload.isLt
    have twos := BitVec.toInt_eq_toNat_cond value.payload
    simp only [Small, signed, if_true] at small
    by_cases low : 2 * value.payload.toNat < 2^64
    · rw [if_pos low] at twos
      have below : value.payload.toNat < 2^53 := by omega
      exact .inl ⟨below, by simp [number,signed,twos]⟩
    · rw [if_neg low] at twos
      refine .inr ⟨by omega, value.payload.toInt, by omega, by omega, by simp [number,signed]⟩
  · have unsigned : value.tag = BRO_TYPE_COUNT ∨ value.tag = BRO_TYPE_COUNTER := integer.resolve_left signed
    simp only [Small, signed, if_false] at small
    exact .inl ⟨small, by simp [number,signed,unsigned]⟩

/-- The double read from an integer payload is that integer only for 0. -/
theorem decode_integer_iff {value : BroVal} (integer : IntegerType value.tag) (small : Small value) :
    Binary64.decode ⟨value.payload⟩ = number value ↔ value.payload = 0 := by
  rcases integer_payload integer small with ⟨below,counts⟩ | ⟨top,n,negative,above,counts⟩
  · rw [counts, Binary64.decode_small_eq_iff ⟨value.payload⟩ below]
    exact ⟨fun zero => BitVec.eq_of_toNat_eq zero, fun zero => by simp [zero]⟩
  · rw [counts]
    have nonzero : value.payload ≠ 0 := by rintro zero; simp [zero] at top
    refine iff_of_false ?_ nonzero
    intro same
    rcases Binary64.decode_top ⟨value.payload⟩ top with special | special | ⟨q,special,far⟩
    · rw [special] at same; cases same
    · rw [special] at same; cases same
    · rw [special] at same
      cases same
      have near : (-2^53 : ℚ) < n := by exact_mod_cast above
      have gap : (-2^64 : ℚ) < -2^53 := by norm_num
      exact absurd (near.trans far) (not_lt.mpr gap.le)

/-- The sign test is right even where the magnitude is not: small positive integers read
as positive subnormals, small negative ones as NaNs or negative words. -/
theorem positive_iff_number {value : BroVal} (numeric : IntegerType value.tag ∨ FloatingType value.tag)
    (small : IntegerType value.tag → Small value) :
    (⟨value.payload⟩ : Double).isPositive = true ↔ (number value).Positive := by
  rw [Binary64.isPositive_iff]
  rcases numeric with integer | floating
  · rcases integer_payload integer (small integer) with ⟨below,counts⟩ | ⟨top,n,negative,above,counts⟩
    · rw [counts, Binary64.decode_small ⟨value.payload⟩ below]
      exact div_pos_iff_of_pos_right (by positivity)
    · rw [counts]
      have negative : ¬ (0 : ℚ) < n := not_lt.mpr (by exact_mod_cast negative.le)
      refine iff_of_false ?_ negative
      rcases Binary64.decode_top ⟨value.payload⟩ top with special | special | ⟨q,special,far⟩
      · simp [special,Binary64.Value.Positive]
      · simp [special,Binary64.Value.Positive]
      · rw [special]
        exact not_lt.mpr (far.le.trans (by norm_num))
  · rw [number_floating floating]

/-- The double that the loop takes for a feature is the field's number, and `d > 0.` passes
it to `process` (`visit_processes`, `visit_passes_by`) exactly when that number is positive. -/
def ReadsNumber (bro : Broccoli R) (record : R) (f : MonitoredFeature S) : Prop :=
  ∃ value d, bro.field record f._name = some value ∧ readValue bro record f = some d ∧
    d.decode = number value ∧ (positiveValue bro record f = some d ↔ (number value).Positive)

/-- With a numeric type configured and a successful lookup, SPOT is shown the number that
Bro sent exactly for the floating types and for the integer 0. -/
theorem reads_number_iff (bro : Broccoli R) (record : R) (f : MonitoredFeature S) (value : BroVal)
    (numeric : IntegerType f._bro_type ∨ FloatingType f._bro_type)
    (stored : bro.field record f._name = some value)
    (succeeds : (bro.bro_record_get_named_val record f._name f._bro_type).1.isSome = true)
    (small : IntegerType f._bro_type → Small value) :
    ReadsNumber bro record f ↔ FloatingType f._bro_type ∨ value.payload = 0 := by
  obtain ⟨value',stored',agrees,returned⟩ := bro.lookup_some succeeds
  obtain rfl : value = value' := Option.some.inj (stored.symm.trans stored')
  have known : f._bro_type ≠ BRO_TYPE_UNKNOWN := by
    rcases numeric with (h | h | h) | (h | h | h) <;> rw [h] <;> decide
  have tag : value.tag = f._bro_type := agrees.resolve_left known
  rw [← tag] at numeric small ⊢
  have read : readValue bro record f = some ⟨value.payload⟩ := by simp [readValue,returned]
  have passes : positiveValue bro record f = some ⟨value.payload⟩ ↔
      (⟨value.payload⟩ : Double).isPositive = true := by
    by_cases positive : (⟨value.payload⟩ : Double).isPositive = true <;>
      simp [positiveValue,read,Option.filter_some,positive]
  have exact_iff : ReadsNumber bro record f ↔ Binary64.decode ⟨value.payload⟩ = number value := by
    constructor
    · rintro ⟨other,d,holds,takes,same,_⟩
      obtain rfl : value = other := Option.some.inj (stored.symm.trans holds)
      obtain rfl : (⟨value.payload⟩ : Double) = d := Option.some.inj (read.symm.trans takes)
      exact same
    · intro same
      exact ⟨value, ⟨value.payload⟩, stored, read, same, passes.trans (positive_iff_number numeric small)⟩
  rw [exact_iff]
  rcases numeric with integer | floating
  · rw [decode_integer_iff integer (small integer)]
    exact (or_iff_right (not_floating_of_integer integer)).symm
  · exact iff_of_true (number_floating floating).symm (.inl floating)

theorem reads_interval :
    ReadsNumber (Broccoli.ofFields (fun _ => true)) [("pkt_lag", ⟨BRO_TYPE_INTERVAL, 0x3FF0000000000000⟩)]
      (.new (.returning 3) "pkt_lag" BRO_TYPE_INTERVAL .shipped) :=
  (reads_number_iff (Broccoli.ofFields (fun _ => true))
    [("pkt_lag", ⟨BRO_TYPE_INTERVAL, 0x3FF0000000000000⟩)]
    (.new (.returning 3) "pkt_lag" BRO_TYPE_INTERVAL .shipped) ⟨BRO_TYPE_INTERVAL, 0x3FF0000000000000⟩
    (.inr (.inr (.inr rfl))) rfl rfl (by
      intro integer
      exact absurd (.inr (.inr rfl)) (not_floating_of_integer integer))).mpr (.inl (.inr (.inr rfl)))

/-- The shipped example's `active_tcp_conns` is a count; 100 connections reach SPOT as the
subnormal 100 / 2^1074. -/
theorem count_read_as_subnormal :
    let bro := Broccoli.ofFields (fun _ => true)
    let record : List (String × BroVal) := [("active_tcp_conns", ⟨BRO_TYPE_COUNT, 100⟩)]
    let f := MonitoredFeature.new (.returning 3) "active_tcp_conns" BRO_TYPE_COUNT .shipped
    readValue bro record f = some ⟨100⟩ ∧ Binary64.decode ⟨100⟩ = .finite (100 / 2^1074) ∧
    number ⟨BRO_TYPE_COUNT, 100⟩ = .finite 100 ∧ ¬ ReadsNumber bro record f := by
  refine ⟨rfl, ?_, rfl, ?_⟩
  · exact Binary64.decode_small ⟨100⟩ (by decide)
  · rintro ⟨value,d,stored,read,same,_⟩
    obtain rfl : (⟨BRO_TYPE_COUNT, 100⟩ : BroVal) = value := Option.some.inj stored
    obtain rfl : (⟨100⟩ : Double) = d := Option.some.inj read
    exact absurd ((Binary64.decode_small_eq_iff ⟨100⟩ (by decide)).mp same) (by decide)

end BroSpotd
