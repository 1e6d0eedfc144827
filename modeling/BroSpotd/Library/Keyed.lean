import Mathlib.Data.List.Nodup
import Mathlib.Data.List.Perm.Basic

/-! Lists searched by a key with a first-match scan. Replacing an entry takes the first
match out and puts the replacement at the tail. -/
namespace Keyed

variable {α κ : Type*} [DecidableEq κ]

def find (key : α → κ) (k : κ) (list : List α) : Option α := list.find? (fun x => key x = k)

/-- The first match goes, its replacement comes last. -/
def moveToBack (key : α → κ) (k : κ) (replacement : α) (list : List α) : List α :=
  list.eraseP (fun x => key x = k) ++ [replacement]

variable (key : α → κ)

@[simp] theorem find_nil (k : κ) : find key k [] = none := rfl

/-- The search of a list of pairs, on its head. -/
theorem lookup_entry {υ : Type*} (k : κ) (entry : κ × υ) (rest : List (κ × υ)) :
    (entry :: rest).lookup k = if k = entry.1 then some entry.2 else rest.lookup k := by
  obtain ⟨j,v⟩ := entry
  by_cases same : k = j
  · simp [same]
  · simp [List.lookup_cons,beq_false_of_ne same,same]

/-- A test that the entries of a key pass does not hide them. -/
theorem lookup_filter {υ : Type*} {k : κ} {test : κ × υ → Bool} (passes : ∀ v, test (k,v) = true)
    (list : List (κ × υ)) : (list.filter test).lookup k = list.lookup k := by
  induction list with
  | nil => rfl
  | cons entry rest ih =>
    rw [List.filter_cons, lookup_entry, ← ih]
    split
    · exact lookup_entry k entry _
    · next fails =>
      have apart : k ≠ entry.1 := by
        rintro rfl
        exact fails (passes entry.2)
      rw [if_neg apart]

theorem find_cons (k : κ) (x : α) (rest : List α) :
    find key k (x :: rest) = if key x = k then some x else find key k rest := by
  by_cases same : key x = k <;> simp [find,same]

theorem find_key {k : κ} {x : α} {list : List α} (found : find key k list = some x) : key x = k := by
  simpa using List.find?_some found

theorem find_mem {k : κ} {x : α} {list : List α} (found : find key k list = some x) : x ∈ list :=
  List.mem_of_find?_eq_some found

theorem find_isSome_iff (k : κ) (list : List α) :
    (find key k list).isSome = true ↔ k ∈ list.map key := by
  simp [find]

theorem find_eq_none_iff (k : κ) (list : List α) : find key k list = none ↔ k ∉ list.map key := by
  simp [find]

/-- With distinct keys the first match is the only one. -/
theorem find_of_mem {list : List α} (distinct : (list.map key).Nodup) {x : α} (member : x ∈ list) :
    find key (key x) list = some x := by
  induction list with
  | nil => simp at member
  | cons y rest ih =>
    obtain ⟨fresh,distinct⟩ := List.nodup_cons.mp distinct
    rcases List.mem_cons.mp member with rfl | member
    · simp [find_cons]
    · have apart : key y ≠ key x := by
        intro same; exact fresh (same ▸ List.mem_map_of_mem member)
      rw [find_cons, if_neg apart, ih distinct member]

theorem find_append (k : κ) (left right : List α) :
    find key k (left ++ right) = (find key k left).or (find key k right) := by
  simp [find]

/-- A rewrite of the entries that keeps their keys commutes with the search. -/
theorem find_map (advance : α → α) (keeps : ∀ x, key (advance x) = key x) (k : κ) (list : List α) :
    find key k (list.map advance) = (find key k list).map advance := by
  induction list with
  | nil => rfl
  | cons x rest ih =>
    simp only [List.map_cons, find_cons, keeps, ih]
    split <;> rfl

theorem find_eraseP_other {j k : κ} (apart : j ≠ k) (list : List α) :
    find key j (list.eraseP (fun x => key x = k)) = find key j list := by
  induction list with
  | nil => rfl
  | cons x rest ih =>
    by_cases same : key x = k
    · have skip : key x ≠ j := by rw [same]; exact apart.symm
      simp [same, find_cons, apart.symm]
    · simp [same, find_cons, ih]

theorem keys_eraseP (k : κ) (list : List α) :
    (list.eraseP (fun x => key x = k)).map key = (list.map key).erase k := by
  induction list with
  | nil => rfl
  | cons x rest ih =>
    by_cases same : key x = k
    · simp [same]
    · simp [same, ih]

/-- With distinct keys the first match is every match. -/
theorem eraseP_eq_filter {list : List α} (distinct : (list.map key).Nodup) (k : κ) :
    list.eraseP (fun x => key x = k) = list.filter (fun x => key x ≠ k) := by
  induction list with
  | nil => rfl
  | cons x rest ih =>
    obtain ⟨fresh,distinct⟩ := List.nodup_cons.mp distinct
    by_cases same : key x = k
    · have others : ∀ y ∈ rest, key y ≠ k := fun y member other =>
        fresh (List.mem_map.mpr ⟨y, member, other.trans same.symm⟩)
      simp only [same, List.eraseP_cons_of_pos, decide_true, ne_eq, not_true, decide_false, List.filter_cons,
        Bool.false_eq_true, if_false]
      exact (List.filter_eq_self.mpr (by simpa using others)).symm
    · simp [same, ih distinct]

theorem find_moveToBack_other {j k : κ} (apart : j ≠ k) {replacement : α}
    (named : key replacement = k) (list : List α) :
    find key j (moveToBack key k replacement list) = find key j list := by
  have skip : key replacement ≠ j := by rw [named]; exact apart.symm
  rw [moveToBack, find_append, find_eraseP_other key apart, find_cons, if_neg skip]
  simp

theorem find_moveToBack_same {k : κ} {replacement : α} (named : key replacement = k)
    {list : List α} (distinct : (list.map key).Nodup) :
    find key k (moveToBack key k replacement list) = some replacement := by
  have gone : find key k (list.eraseP (fun x => key x = k)) = none := by
    rw [find_eq_none_iff, keys_eraseP]
    exact distinct.not_mem_erase
  rw [moveToBack, find_append, gone, find_cons, if_pos named, Option.none_or]

/-- A successful search splits the list at the first match, the one that `eraseP` takes. -/
theorem find_split {k : κ} {x : α} {list : List α} (found : find key k list = some x) :
    ∃ front back, list = front ++ x :: back ∧ (∀ y ∈ front, key y ≠ k) ∧
      list.eraseP (fun x => key x = k) = front ++ back := by
  induction list with
  | nil => simp at found
  | cons y rest ih =>
    by_cases same : key y = k
    · simp only [find_cons, if_pos same, Option.some.injEq] at found
      subst found
      exact ⟨[], rest, rfl, nofun, by simp [same]⟩
    · rw [find_cons, if_neg same] at found
      obtain ⟨front,back,split,before,erased⟩ := ih found
      refine ⟨y :: front, back, by simp [split], ?_, by simp [same,erased]⟩
      intro z member
      rcases List.mem_cons.mp member with rfl | later
      · exact same
      · exact before z later

theorem eraseP_append_found {k : κ} {x : α} {left : List α} (found : find key k left = some x)
    (right : List α) : (left ++ right).eraseP (fun x => key x = k) = left.eraseP (fun x => key x = k) ++ right :=
  List.eraseP_append_left (by simpa using find_key key found) _ (find_mem key found)

theorem eraseP_append_missing {k : κ} {left : List α} (missing : find key k left = none)
    (right : List α) : (left ++ right).eraseP (fun x => key x = k) = left ++ right.eraseP (fun x => key x = k) :=
  List.eraseP_append_right _ (List.find?_eq_none.mp missing)

/-- Taking the first match out leaves the head where it is, unless the head is the match. -/
theorem head?_eraseP {k : κ} {x y : α} {list : List α} (found : find key k list = some x)
    (head : list.head? = some y) (apart : y ≠ x) :
    (list.eraseP (fun x => key x = k)).head? = some y := by
  obtain ⟨rest,rfl⟩ := List.head?_eq_some_iff.mp head
  rw [find_cons] at found
  split at found
  · exact absurd (Option.some.inj found) apart
  · next other => simp [other]

theorem getLast?_eraseP {k : κ} {x y : α} {list : List α} (found : find key k list = some x)
    (last : list.getLast? = some y) (apart : y ≠ x) :
    (list.eraseP (fun x => key x = k)).getLast? = some y := by
  obtain ⟨front,rfl⟩ := List.getLast?_eq_some_iff.mp last
  have early : find key k front = some x := by
    cases early : find key k front with
    | some z => rwa [find_append, early, Option.some_or] at found
    | none =>
      rw [find_append, early, Option.none_or] at found
      exact absurd (List.mem_singleton.mp (find_mem key found)).symm apart
  rw [eraseP_append_found key early]
  simp

/-- A view that the replacement shares with the entry it replaces is permuted only. -/
theorem map_moveToBack {β : Type*} (view : α → β) {k : κ} {x replacement : α} {list : List α}
    (found : find key k list = some x) (same : view replacement = view x) :
    ((moveToBack key k replacement list).map view).Perm (list.map view) := by
  obtain ⟨front,back,split,_,erased⟩ := find_split key found
  have moved : (front.map view ++ (back.map view ++ [view x])).Perm
      (front.map view ++ view x :: back.map view) :=
    (List.perm_append_singleton _ _).append_left _
  rw [moveToBack, erased, split]
  simpa [same] using moved

/-- With distinct keys the order of the list does not matter to the search. -/
theorem find_perm {list other : List α} (distinct : (list.map key).Nodup) (perm : list.Perm other) (k : κ) :
    find key k list = find key k other := by
  cases found : find key k other with
  | none =>
    apply (find_eq_none_iff key k list).mpr
    intro present
    exact (find_eq_none_iff key k other).mp found ((perm.map key).mem_iff.mp present)
  | some x =>
    have member : x ∈ list := perm.mem_iff.mpr (find_mem key found)
    simpa [find_key key found] using find_of_mem key distinct member

end Keyed
