import BroSpotd.Library.NodeList

/-! Where an iterator stands in a linked list: the nodes behind it and the nodes ahead, its
own among the latter. Each operation on the list says what becomes of the two. -/
namespace NodeList

variable {α : Type*}

structure At (list : NodeList α) (it : Option Nat) (behind ahead : List (Node α)) : Prop where
  split : list.nodes = behind ++ ahead
  points : it = ahead.head?.map Node.id

variable {list : NodeList α} {it : Option Nat} {id : Nat} {behind ahead rest : List (Node α)} {node x : Node α}

theorem at_begin (list : NodeList α) : At list list.begin_ [] list.nodes := ⟨rfl,rfl⟩

/-- The end is past every node, whatever happens to them. -/
theorem at_end (list : NodeList α) : At list none list.nodes [] := ⟨(List.append_nil _).symm,rfl⟩

theorem At.at_end (stands : At list none behind ahead) : ahead = [] := by
  simpa using stands.points.symm

theorem At.designated (stands : At list (some id) behind ahead) :
    ∃ node rest, ahead = node :: rest ∧ node.id = id := by
  cases ahead with
  | nil => simpa using stands.points
  | cons node rest => exact ⟨node,rest,rfl,by simpa using stands.points.symm⟩

/-- An identity stands on one side only. -/
theorem At.apart (stands : At list it behind ahead) {y : Node α} (before : x ∈ behind) (after : y ∈ ahead) :
    x.id ≠ y.id := by
  have distinct := list.distinct
  rw [stands.split, List.map_append, List.nodup_append] at distinct
  exact distinct.2.2 _ (List.mem_map_of_mem before) _ (List.mem_map_of_mem after)

theorem At.distinct_ahead (stands : At list it behind ahead) : (ahead.map Node.id).Nodup := by
  have distinct := list.distinct
  rw [stands.split, List.map_append, List.nodup_append] at distinct
  exact distinct.2.1

theorem At.get?_eq (stands : At list (some id) behind (node :: rest)) : list.get? id = some node := by
  rw [get?_eq_some_iff, stands.split]
  exact ⟨by simp, by simpa using stands.points.symm⟩

/-- The nodes behind are those before the first with the designated identity. -/
theorem At.behind_eq (stands : At list (some id) behind ahead) : list.behind (some id) = behind := by
  obtain ⟨node,rest,rfl,rfl⟩ := stands.designated
  have others : ∀ x ∈ behind, decide (x.id ≠ node.id) = true := by
    intro x before
    simpa using stands.apart before (List.mem_cons_self ..)
  simp only [NodeList.behind, stands.split]
  rw [List.takeWhile_append_of_pos others]
  simp

theorem At.step (stands : At list (some id) behind (node :: rest)) :
    At list (list.next id) (behind ++ [node]) rest := by
  obtain rfl : id = node.id := by simpa using stands.points
  have others : ∀ x ∈ behind, decide (x.id ≠ node.id) = true := by
    intro x before
    simpa using stands.apart before (List.mem_cons_self ..)
  refine ⟨by simp [stands.split], ?_⟩
  simp only [next, stands.split]
  rw [List.dropWhile_append_of_pos others]
  simp

/-- Writing through the iterator changes the designated node only. -/
theorem At.update_nodes (stands : At list (some id) behind (node :: rest)) (value : α) :
    (list.update id value).nodes = behind ++ { node with value := value } :: rest := by
  obtain rfl : id = node.id := by simpa using stands.points
  have distinct := stands.distinct_ahead
  rw [List.map_cons, List.nodup_cons] at distinct
  have skip : ∀ part : List (Node α), (∀ x ∈ part, x.id ≠ node.id) →
      part.map (fun x => if x.id = node.id then { x with value := value } else x) = part := by
    intro part others
    exact (List.map_congr_left (fun x member => if_neg (others x member))).trans (List.map_id part)
  simp only [update, rewrite, stands.split, List.map_append, List.map_cons, if_true]
  rw [skip behind (fun x before => stands.apart before (List.mem_cons_self ..)),
    skip rest (fun x after same => distinct.1 (same ▸ List.mem_map_of_mem after))]

theorem At.update (stands : At list (some id) behind (node :: rest)) (value : α) :
    At (list.update id value) (some id) behind ({ node with value := value } :: rest) :=
  ⟨stands.update_nodes value, by simpa using stands.points⟩

theorem At.emplace_back (stands : At list (some id) behind ahead) (value : α) :
    At (list.emplace_back value) (some id) behind (ahead ++ [⟨list.next_id,value⟩]) := by
  obtain ⟨node,rest,rfl,rfl⟩ := stands.designated
  exact ⟨by simp [NodeList.emplace_back,stands.split], rfl⟩

theorem At.erase_behind (stands : At list it behind ahead) (before : x ∈ behind) :
    At (list.erase x.id) it (behind.eraseP (fun node => node.id = x.id)) ahead := by
  refine ⟨?_, stands.points⟩
  simp only [erase, stands.split]
  apply List.eraseP_append_left ?_ _ before
  simp

theorem At.erase_ahead (stands : At list (some id) behind (node :: rest)) (after : x ∈ rest) :
    At (list.erase x.id) (some id) behind (node :: rest.eraseP (fun node => node.id = x.id)) := by
  have distinct := stands.distinct_ahead
  rw [List.map_cons, List.nodup_cons] at distinct
  have apart : node.id ≠ x.id := fun same => distinct.1 (same ▸ List.mem_map_of_mem after)
  have others : ∀ y ∈ behind, ¬ (decide (y.id = x.id)) = true := by
    intro y before
    simpa using stands.apart before (List.mem_cons_of_mem _ after)
  refine ⟨?_, by simpa using stands.points⟩
  simp only [erase, stands.split]
  rw [List.eraseP_append_right _ others, List.eraseP_cons_of_neg (by simpa using apart)]

/-- Erasing a node other than the designated one leaves no more nodes ahead than before. -/
theorem At.erase_spares (stands : At list (some id) behind (node :: rest)) (member : x ∈ list.nodes)
    (spares : id ≠ x.id) : ∃ behind' rest', At (list.erase x.id) (some id) behind' (node :: rest') ∧
      rest'.length ≤ rest.length := by
  have here : id = node.id := by simpa using stands.points
  rw [stands.split, List.mem_append, List.mem_cons] at member
  rcases member with before | rfl | after
  · exact ⟨_, _, stands.erase_behind before, Nat.le_refl _⟩
  · exact absurd here spares
  · exact ⟨_, _, stands.erase_ahead after, List.length_eraseP_le⟩

/-- Taking a node out and putting it in front permutes the nodes. -/
theorem perm_eraseP_id {nodes : List (Node α)} (distinct : (nodes.map Node.id).Nodup) (member : x ∈ nodes) :
    (x :: nodes.eraseP (fun node => node.id = x.id)).Perm nodes := by
  induction nodes with
  | nil => simp at member
  | cons first rest ih =>
    obtain ⟨fresh,distinct⟩ := List.nodup_cons.mp distinct
    rcases List.mem_cons.mp member with rfl | member
    · simp
    · have apart : first.id ≠ x.id := fun same => fresh (same ▸ List.mem_map_of_mem member)
      rw [List.eraseP_cons_of_neg (by simpa using apart)]
      exact (List.Perm.swap ..).trans ((ih distinct member).cons first)

theorem begin_mem (begins : list.begin_ = some id) : id ∈ list.ids := by
  obtain ⟨node,first,rfl⟩ := Option.map_eq_some_iff.mp begins
  exact List.mem_map_of_mem (List.mem_of_mem_head? first)

theorem next_mem {j : Nat} (follows : list.next id = some j) : j ∈ list.ids := by
  obtain ⟨node,first,rfl⟩ := Option.map_eq_some_iff.mp follows
  exact List.mem_map_of_mem ((List.dropWhile_sublist _).mem (List.mem_of_mem_tail (List.mem_of_mem_head? first)))

end NodeList
