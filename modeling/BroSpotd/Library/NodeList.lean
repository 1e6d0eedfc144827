import BroSpotd.Library.Sweep
import Mathlib.Data.List.Nodup

/-! A linked list whose nodes have an identity: erasing a node removes that node and no
other, a node added later never takes an identity back, and an iterator is the identity
of a node, or none at the end. -/

structure Node (α : Type*) where
  id : Nat
  value : α
  deriving DecidableEq, Repr

structure NodeList (α : Type*) where
  nodes : List (Node α)
  next_id : Nat
  distinct : (nodes.map Node.id).Nodup
  bounded : ∀ node ∈ nodes, node.id < next_id

namespace NodeList

variable {α ε σ : Type*}

def empty : NodeList α := ⟨[], 0, by simp, by simp⟩
def values (list : NodeList α) : List α := list.nodes.map Node.value
def ids (list : NodeList α) : List Nat := list.nodes.map Node.id

/-- A new node before the end, with an identity of its own. -/
def emplace_back (list : NodeList α) (value : α) : NodeList α where
  nodes := list.nodes ++ [⟨list.next_id, value⟩]
  next_id := list.next_id + 1
  distinct := by
    rw [List.map_append, List.nodup_append]
    refine ⟨list.distinct, List.nodup_singleton _, ?_⟩
    intro a old b new same
    obtain ⟨node,member,rfl⟩ := List.mem_map.mp old
    have below := list.bounded node member
    simp only [List.map_singleton, List.mem_singleton] at new
    omega
  bounded := by
    intro node member
    rcases List.mem_append.mp member with old | new
    · exact Nat.lt_succ_of_lt (list.bounded node old)
    · simp only [List.mem_singleton] at new; simp [new]

def erase (list : NodeList α) (id : Nat) : NodeList α where
  nodes := list.nodes.eraseP (fun node => node.id = id)
  next_id := list.next_id
  distinct := list.distinct.sublist (List.eraseP_sublist.map Node.id)
  bounded := fun node member => list.bounded node (List.eraseP_sublist.mem member)

/-- The first node whose value passes the test. -/
def find? (list : NodeList α) (test : α → Bool) : Option (Node α) :=
  list.nodes.find? (fun node => test node.value)

def get? (list : NodeList α) (id : Nat) : Option (Node α) :=
  list.nodes.find? (fun node => node.id = id)

def begin_ (list : NodeList α) : Option Nat := list.nodes.head?.map Node.id

/-- `++it`: the node after the given one, none at the end. -/
def next (list : NodeList α) (id : Nat) : Option Nat :=
  ((list.nodes.dropWhile (fun node => node.id ≠ id)).tail.head?).map Node.id

/-- The nodes before an iterator; the end is past all of them. -/
def behind (list : NodeList α) : Option Nat → List (Node α)
  | none => list.nodes
  | some id => list.nodes.takeWhile (fun node => node.id ≠ id)

/-- The body of a sweep reads and writes the value of a node, never its identity. -/
def nodeBody (body : Sweep.Body ε α σ) : Sweep.Body ε (Node α) σ :=
  Sweep.lift Node.value (fun node value => { node with value := value }) body

theorem nodeBody_ids (body : Sweep.Body ε α σ) (nodes : List (Node α)) (s : σ) :
    (Sweep.sweep (nodeBody body) nodes s).2.1.map Node.id = nodes.map Node.id :=
  Sweep.sweep_map _ _ (fun _ _ => rfl) nodes s

/-- Nodes with the identities of the old ones stand where the old ones stood. -/
def rewrite (list : NodeList α) (nodes : List (Node α))
    (same : nodes.map Node.id = list.nodes.map Node.id) : NodeList α where
  nodes := nodes
  next_id := list.next_id
  distinct := same ▸ list.distinct
  bounded := by
    intro node member
    have old : node.id ∈ list.nodes.map Node.id := same ▸ List.mem_map_of_mem member
    obtain ⟨before,member,eq⟩ := List.mem_map.mp old
    exact eq ▸ list.bounded before member

def sweep (body : Sweep.Body ε α σ) (list : NodeList α) (s : σ) : Except ε Unit × NodeList α × σ :=
  let out := Sweep.sweep (nodeBody body) list.nodes s
  (out.1, list.rewrite out.2.1 (nodeBody_ids body list.nodes s), out.2.2)

def update (list : NodeList α) (id : Nat) (value : α) : NodeList α :=
  list.rewrite (list.nodes.map (fun node => if node.id = id then { node with value := value } else node))
    (by rw [List.map_map]; apply List.map_congr_left; intro node _; simp only [Function.comp]; split <;> rfl)

@[simp] theorem values_emplace_back (list : NodeList α) (value : α) :
    (list.emplace_back value).values = list.values ++ [value] := by simp [values,emplace_back]

/-- A sweep of the list is a sweep of its values. -/
theorem values_sweep (body : Sweep.Body ε α σ) (list : NodeList α) (s : σ) :
    ((list.sweep body s).1, (list.sweep body s).2.1.values, (list.sweep body s).2.2) =
      Sweep.sweep body list.values s :=
  Sweep.sweep_lift Node.value _ (fun _ _ => rfl) body list.nodes s

theorem find?_value (list : NodeList α) (test : α → Bool) :
    (list.find? test).map Node.value = list.values.find? test := by
  simp only [find?, values, List.find?_map]
  rfl

theorem find?_mem {list : NodeList α} {test : α → Bool} {node : Node α}
    (found : list.find? test = some node) : node ∈ list.nodes ∧ test node.value = true :=
  ⟨List.mem_of_find?_eq_some found, by simpa using List.find?_some found⟩

theorem id_unique (list : NodeList α) {a b : Node α} (ha : a ∈ list.nodes) (hb : b ∈ list.nodes)
    (same : a.id = b.id) : a = b :=
  List.inj_on_of_nodup_map list.distinct ha hb same

theorem get?_eq_some_iff (list : NodeList α) (id : Nat) (node : Node α) :
    list.get? id = some node ↔ node ∈ list.nodes ∧ node.id = id := by
  constructor
  · intro found
    exact ⟨List.mem_of_find?_eq_some found, by simpa using List.find?_some found⟩
  · rintro ⟨member,rfl⟩
    cases found : list.get? node.id with
    | none => simp only [get?, List.find?_eq_none] at found; simpa using found node member
    | some other =>
      have same : other.id = node.id := by simpa using List.find?_some found
      rw [id_unique list (List.mem_of_find?_eq_some found) member same]

/-- Erasing the node that a scan found takes the first match out of the nodes. -/
theorem nodes_erase_found {list : NodeList α} {test : α → Bool} {node : Node α}
    (found : list.find? test = some node) :
    (list.erase node.id).nodes = list.nodes.eraseP (fun node => test node.value) := by
  obtain ⟨nodes,next_id,distinct,bounded⟩ := list
  simp only [find?, erase] at found ⊢
  clear bounded
  induction nodes with
  | nil => rfl
  | cons first rest ih =>
    obtain ⟨fresh,distinct⟩ := List.nodup_cons.mp distinct
    by_cases hit : test first.value = true
    · have first_found : first = node := by simpa [hit] using found
      subst first_found
      simp [hit]
    · have found : rest.find? (fun node => test node.value) = some node := by simpa [hit] using found
      have apart : first.id ≠ node.id := by
        intro same
        exact fresh (same ▸ List.mem_map_of_mem (List.mem_of_find?_eq_some found))
      simp [hit, apart, ih distinct found]

/-- The same seen on the values. -/
theorem values_erase_found {list : NodeList α} {test : α → Bool} {node : Node α}
    (found : list.find? test = some node) : (list.erase node.id).values = list.values.eraseP test := by
  simp only [values, nodes_erase_found found, List.eraseP_map]
  rfl

theorem mem_ids_erase (list : NodeList α) (id other : Nat) :
    other ∈ (list.erase id).ids ↔ other ≠ id ∧ other ∈ list.ids := by
  have erased : (list.erase id).ids = list.ids.erase id := by
    simp only [ids, erase, List.erase_eq_eraseP', List.eraseP_map]
    congr 1
  rw [erased]
  exact list.distinct.mem_erase_iff

@[simp] theorem ids_emplace_back (list : NodeList α) (value : α) :
    (list.emplace_back value).ids = list.ids ++ [list.next_id] := by simp [ids,emplace_back]

@[simp] theorem ids_rewrite (list : NodeList α) (nodes : List (Node α))
    (same : nodes.map Node.id = list.nodes.map Node.id) : (list.rewrite nodes same).ids = list.ids := same

/-- A write through an iterator keeps every view of the values that the write itself keeps. -/
theorem values_update_view {β : Type*} (view : α → β) {list : NodeList α} {id : Nat} {node : Node α} {value : α}
    (here : list.get? id = some node) (same : view value = view node.value) :
    (list.update id value).values.map view = list.values.map view := by
  obtain ⟨member,rfl⟩ := (get?_eq_some_iff list id node).mp here
  simp only [update, rewrite, values, List.map_map]
  apply List.map_congr_left
  intro other listed
  simp only [Function.comp]
  split
  · next alike => rw [id_unique list listed member alike, same]
  · rfl

@[simp] theorem ids_update (list : NodeList α) (id : Nat) (value : α) :
    (list.update id value).ids = list.ids := ids_rewrite _ _ _

end NodeList
