import BroSpotd.Library.Keyed

/-! Names and their owners. Each owner lists its names; a table leads from a name to the owner
that took it first, since an insertion never replaces an entry. -/
namespace Registry

variable {κ υ : Type*} [DecidableEq κ]

def find (k : κ) (table : List (κ × υ)) : Option υ := table.lookup k

/-- `std::map::insert`: a key that is present keeps its value. -/
def enter (k : κ) (v : υ) (table : List (κ × υ)) : List (κ × υ) :=
  if (find k table).isSome then table else table ++ [(k,v)]

@[simp] theorem find_nil (k : κ) : find k ([] : List (κ × υ)) = none := rfl

theorem find_enter (k j : κ) (v : υ) (table : List (κ × υ)) :
    find j (enter k v table) = (find j table).or (if j = k then some v else none) := by
  unfold enter
  split
  · next present =>
    by_cases same : j = k
    · subst same
      obtain ⟨w,found⟩ := Option.isSome_iff_exists.mp present
      simp [found]
    · simp [same]
  · rw [find, List.lookup_append, Keyed.lookup_entry]
    rfl

theorem find_enter_kept {k j : κ} {v w : υ} {table : List (κ × υ)} (found : find j table = some w) :
    find j (enter k v table) = some w := by
  simp [find_enter,found]

theorem find_enter_self (k : κ) (v : υ) (table : List (κ × υ)) : (find k (enter k v table)).isSome = true := by
  simp [find_enter]

/-- The lists of names and the table agree, and an owner's first name is its own. -/
structure Consistent (owners : List (List κ)) (table : List (κ × Nat)) : Prop where
  leads : ∀ k i, find k table = some i → ∃ names, owners[i]? = some names ∧ k ∈ names
  listed : ∀ (i : Nat) names, owners[i]? = some names → ∀ k ∈ names, (find k table).isSome = true
  distinct : ∀ (i : Nat) names, owners[i]? = some names → names.Nodup
  first : ∀ (i : Nat) names, owners[i]? = some names → ∃ k rest, names = k :: rest ∧ find k table = some i

theorem consistent_empty : Consistent ([] : List (List κ)) [] := by
  constructor <;> simp

/-- A new owner under a name that nobody has. -/
theorem Consistent.register {owners : List (List κ)} {table : List (κ × Nat)} (valid : Consistent owners table)
    {k : κ} (fresh : find k table = none) : Consistent (owners ++ [[k]]) (enter k owners.length table) := by
  have old_or_new : ∀ i names, (owners ++ [[k]])[i]? = some names →
      owners[i]? = some names ∨ i = owners.length ∧ names = [k] := by
    intro i names found
    rw [List.getElem?_append] at found
    split at found
    · exact .inl found
    · next past =>
      refine .inr ?_
      obtain ⟨zero,rfl⟩ : i - owners.length = 0 ∧ [k] = names := by
        simpa [List.getElem?_singleton] using found
      exact ⟨by omega, rfl⟩
  constructor
  · intro j i found
    rw [find_enter] at found
    cases taken : find j table with
    | some i' =>
      obtain rfl : i' = i := by simpa [taken] using found
      obtain ⟨names,owner,member⟩ := valid.leads j i' taken
      obtain ⟨below,_⟩ := List.getElem?_eq_some_iff.mp owner
      exact ⟨names, by rw [List.getElem?_append_left below]; exact owner, member⟩
    | none =>
      obtain ⟨rfl,rfl⟩ : j = k ∧ owners.length = i := by simpa [taken] using found
      exact ⟨[j], by simp, List.mem_singleton_self j⟩
  · intro i names owner j member
    rcases old_or_new i names owner with old | ⟨rfl,rfl⟩
    · obtain ⟨w,found⟩ := Option.isSome_iff_exists.mp (valid.listed i names old j member)
      simp [find_enter,found]
    · obtain rfl := List.mem_singleton.mp member
      apply find_enter_self
  · intro i names owner
    rcases old_or_new i names owner with old | ⟨rfl,rfl⟩
    · exact valid.distinct i names old
    · exact List.nodup_singleton k
  · intro i names owner
    rcases old_or_new i names owner with old | ⟨rfl,rfl⟩
    · obtain ⟨j,rest,split,found⟩ := valid.first i names old
      exact ⟨j, rest, split, find_enter_kept found⟩
    · exact ⟨k, [], rfl, by simp [find_enter,fresh]⟩

/-- One more name for an owner. Where another owner has it already, the table stays. -/
theorem Consistent.alias {owners : List (List κ)} {table : List (κ × Nat)} (valid : Consistent owners table)
    {i : Nat} {names : List κ} (owner : owners[i]? = some names) {k : κ} (new : k ∉ names) :
    Consistent (owners.set i (names ++ [k])) (enter k i table) := by
  obtain ⟨below,_⟩ := List.getElem?_eq_some_iff.mp owner
  have own_or_other : ∀ j others, (owners.set i (names ++ [k]))[j]? = some others →
      j = i ∧ others = names ++ [k] ∨ j ≠ i ∧ owners[j]? = some others := by
    intro j others found
    by_cases same : j = i
    · subst same
      refine .inl ⟨rfl,?_⟩
      simpa [List.getElem?_set_self below] using found.symm
    · exact .inr ⟨same, by simpa [List.getElem?_set_ne (Ne.symm same)] using found⟩
  constructor
  · intro j o found
    rw [find_enter] at found
    cases taken : find j table with
    | some o' =>
      obtain rfl : o' = o := by simpa [taken] using found
      obtain ⟨others,owned,member⟩ := valid.leads j o' taken
      by_cases same : o' = i
      · subst same
        obtain rfl : names = others := Option.some.inj (owner.symm.trans owned)
        exact ⟨names ++ [k], by simp [List.getElem?_set_self below], List.mem_append_left _ member⟩
      · exact ⟨others, by rw [List.getElem?_set_ne (Ne.symm same)]; exact owned, member⟩
    | none =>
      obtain ⟨rfl,rfl⟩ : j = k ∧ i = o := by simpa [taken] using found
      exact ⟨names ++ [j], by simp [List.getElem?_set_self below], by simp⟩
  · intro j others owned l member
    rcases own_or_other j others owned with ⟨rfl,rfl⟩ | ⟨_,old⟩
    · rcases List.mem_append.mp member with old | new
      · obtain ⟨w,found⟩ := Option.isSome_iff_exists.mp (valid.listed j names owner l old)
        simp [find_enter,found]
      · obtain rfl := List.mem_singleton.mp new
        apply find_enter_self
    · obtain ⟨w,found⟩ := Option.isSome_iff_exists.mp (valid.listed j others old l member)
      simp [find_enter,found]
  · intro j others owned
    rcases own_or_other j others owned with ⟨rfl,rfl⟩ | ⟨_,old⟩
    · exact List.nodup_append.mpr ⟨valid.distinct j names owner, List.nodup_singleton k, by grind⟩
    · exact valid.distinct j others old
  · intro j others owned
    rcases own_or_other j others owned with ⟨rfl,rfl⟩ | ⟨_,old⟩
    · obtain ⟨l,rest,rfl,found⟩ := valid.first j names owner
      exact ⟨l, rest ++ [k], rfl, find_enter_kept found⟩
    · obtain ⟨l,rest,split,found⟩ := valid.first j others old
      exact ⟨l, rest, split, find_enter_kept found⟩

end Registry
