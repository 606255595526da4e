import Mathlib.Data.Finset.Card
import Mathlib.Logic.Relation
import LawFirmDigitalTwin.Lib.DepthFirst

/-!
# Cycles, and the two searches that go by a queue

A relation is without cycles when no node leads back to itself; among finitely many nodes this is to
have a rank in which every edge goes down (`Acyclic.exists_rank`). The first search counts what each
node still waits for, and takes the nodes that wait for nothing: it takes all of them exactly when
there is no cycle (`drain_spec`, `length_visited_iff`). The second one spreads from some nodes along
the edges (`spread_spec`). A search whose fuel runs out has no result.
-/

namespace Topological

variable {α : Type*}

/-! ## Cycles -/

/-- No node leads back to itself. -/
def Acyclic (edge : α → α → Prop) : Prop := ∀ a, ¬ Relation.TransGen edge a a

/-- A rank that falls along every edge falls along every path. -/
theorem rank_lt_of_transGen {edge : α → α → Prop} {rank : α → Nat}
    (hrank : ∀ a b, edge a b → rank b < rank a) {a b : α} (h : Relation.TransGen edge a b) :
    rank b < rank a := by
  induction h with
  | single h => exact hrank _ _ h
  | tail _ h ih => exact (hrank _ _ h).trans ih

/-- Where every edge goes down in rank there is no cycle. -/
theorem Acyclic.of_rank {edge : α → α → Prop} (rank : α → Nat)
    (hrank : ∀ a b, edge a b → rank b < rank a) : Acyclic edge :=
  fun _ h => Nat.lt_irrefl _ (rank_lt_of_transGen hrank h)

/-- **Without cycles, finitely many nodes have a rank**: how many nodes each leads to. -/
theorem Acyclic.exists_rank {edge : α → α → Prop} (h : Acyclic edge) {nodes : List α}
    (hnodes : ∀ a b, edge a b → b ∈ nodes) :
    ∃ rank : α → Nat, ∀ a b, edge a b → rank b < rank a := by
  classical
  let below (a : α) : Finset α := nodes.toFinset.filter (Relation.TransGen edge a)
  refine ⟨fun a => (below a).card, fun a b hab => Finset.card_lt_card ?_⟩
  refine ⟨fun c hc => ?_, fun hsubset => ?_⟩
  · obtain ⟨hmem, hbc⟩ := Finset.mem_filter.1 hc
    exact Finset.mem_filter.2 ⟨hmem, .head hab hbc⟩
  · have hb : b ∈ below a :=
      Finset.mem_filter.2 ⟨List.mem_toFinset.2 (hnodes a b hab), .single hab⟩
    exact h b (Finset.mem_filter.1 (hsubset hb)).2

/-- Nodes in an order that each comes in after all it leads to have no cycle. -/
theorem Acyclic.of_ordered [DecidableEq α] {next : α → List α} {order : List α}
    (h : DepthFirst.Ordered id next order) : Acyclic fun a b => a ∈ order ∧ b ∈ next a :=
  .of_rank order.idxOf fun _ _ hab => h.idxOf_lt hab.1 _ hab.2

/-- What holds of the nodes that lead nowhere, and passes back along an edge, holds of all nodes in
such an order. -/
theorem forall_mem_of_ordered {next : α → List α} {order : List α} {P : α → Prop}
    (h : DepthFirst.Ordered id next order) (hnone : ∀ a ∈ order, next a = [] → P a)
    (hback : ∀ a ∈ order, ∀ b ∈ next a, P b → P a) : ∀ a ∈ order, P a := by
  induction h with
  | nil => exact List.forall_mem_nil P
  | @concat order a _ _ hnext ih =>
    have ih := ih (fun b hb => hnone b (List.mem_append_left _ hb))
      fun b hb => hback b (List.mem_append_left _ hb)
    intro b hb
    rcases List.mem_append.1 hb with hb' | hb'
    · exact ih b hb'
    obtain rfl := List.mem_singleton.1 hb'
    cases hdeps : next b with
    | nil => exact hnone b hb hdeps
    | cons d ds =>
      have hd : d ∈ next b := hdeps ▸ .head _
      exact hback b hb d hd (ih d (hnext d hd))

/-! ## Taking the nodes that wait for nothing -/

/-- How many dependencies each node still waits for, the nodes that wait for none, and those that
were taken. -/
structure State (α : Type*) where
  indegree : α → Int
  queue : List α
  visited : List α

section
variable [DecidableEq α]

/-- A dependency of the target was taken. -/
def enter (s : State α) (target : α) : State α :=
  let count := s.indegree target - 1
  { s with
    indegree := Function.update s.indegree target count
    queue := if count = 0 then s.queue ++ [target] else s.queue }

/-- Takes the nodes of the queue one after the other. -/
def drain (outgoing : α → List α) : Nat → State α → Option (State α)
  | 0, s => if s.queue = [] then some s else none
  | fuel + 1, s =>
    match s.queue with
    | [] => some s
    | item :: rest =>
      drain outgoing fuel
        ((outgoing item).foldl enter { s with queue := rest, visited := s.visited ++ [item] })

@[simp] theorem visited_foldl_enter (targets : List α) (s : State α) :
    (targets.foldl enter s).visited = s.visited := by
  induction targets generalizing s with
  | nil => rfl
  | cons t targets ih => exact ih (enter s t)

/-- What entering some targets does: their counts go down, and those that come to nothing are
queued. -/
theorem foldl_enter {targets : List α} {s : State α}
    (hcount : ∀ a, (targets.count a : Int) ≤ s.indegree a) :
    (∀ a, (targets.foldl enter s).indegree a = s.indegree a - targets.count a) ∧
      ∃ new, (targets.foldl enter s).queue = s.queue ++ new ∧ new.Nodup ∧
        ∀ a, a ∈ new ↔ a ∈ targets ∧ s.indegree a = targets.count a := by
  induction targets generalizing s with
  | nil => exact ⟨fun a => by simp, [], by simp⟩
  | cons t targets ih =>
    have hentered : ∀ a, (enter s t).indegree a = s.indegree a - if a = t then 1 else 0 := by
      intro a
      simp only [enter, Function.update_apply]
      split
      · next h => rw [h]
      · rw [Int.sub_zero]
    have hcounts : ∀ a, ((t :: targets).count a : Int) =
        targets.count a + if a = t then 1 else 0 := by
      intro a
      rw [List.count_cons]
      by_cases h : a = t
      · simp [h]
      · simp [h, Ne.symm h]
    obtain ⟨hindegree, new, hqueue, hnodup, hnew⟩ := ih (s := enter s t) (fun a => by
      have h := hcount a
      rw [hcounts] at h
      rw [hentered]
      omega)
    refine ⟨fun a => ?_, ?_⟩
    · rw [List.foldl_cons, hindegree, hentered, hcounts]
      omega
    -- the target is queued now or among the later ones
    have hmem : ∀ a, a ∈ new ↔ a ∈ targets ∧ s.indegree a = (t :: targets).count a := by
      intro a
      rw [hnew, hentered, hcounts]
      exact and_congr_right fun _ => by omega
    rw [List.foldl_cons, hqueue]
    by_cases hzero : s.indegree t - 1 = 0
    · have hnot : t ∉ targets := by
        intro hin
        have h := hcount t
        have hpos := List.count_pos_iff.2 hin
        rw [List.count_cons_self] at h
        omega
      refine ⟨t :: new, ?_, List.nodup_cons.2 ⟨fun h => hnot ((hmem t).1 h).1, hnodup⟩, ?_⟩
      · simp [enter, hzero]
      · intro a
        rw [List.mem_cons, hmem, List.mem_cons]
        constructor
        · rintro (rfl | ⟨ha, hcount⟩)
          · refine ⟨.inl rfl, ?_⟩
            rw [List.count_cons_self, List.count_eq_zero.2 hnot]
            omega
          · exact ⟨.inr ha, hcount⟩
        · rintro ⟨rfl | ha, hcount⟩
          · exact .inl rfl
          · exact .inr ⟨ha, hcount⟩
    · refine ⟨new, by simp [enter, hzero], hnodup, fun a => ?_⟩
      rw [hmem, List.mem_cons]
      constructor
      · exact fun h => ⟨.inr h.1, h.2⟩
      · rintro ⟨rfl | ha, hcounted⟩
        · refine ⟨?_, hcounted⟩
          rw [List.count_cons_self] at hcounted
          exact List.count_pos_iff.1 (by omega)
        · exact ⟨ha, hcounted⟩

section
variable {nodes : List α} {deps outgoing : α → List α} {s : State α}

/-- The counts are those of the dependencies that were not taken; the nodes taken come after their
dependencies. -/
structure Inv (nodes : List α) (deps : α → List α) (s : State α) : Prop where
  count : ∀ a ∈ nodes, s.indegree a = ((deps a).filter (· ∉ s.visited)).length
  outside : ∀ a, a ∉ nodes → s.indegree a = 0
  nodup : (s.visited ++ s.queue).Nodup
  known : ∀ a ∈ s.visited ++ s.queue, a ∈ nodes
  free : ∀ a ∈ nodes, a ∈ s.visited ++ s.queue ↔ s.indegree a = 0
  ordered : DepthFirst.Ordered id deps s.visited

/-- The targets of a node are the nodes that depend on it, each as often as it does. -/
def Targets (nodes : List α) (deps outgoing : α → List α) : Prop :=
  ∀ d a, (outgoing d).count a = if a ∈ nodes then (deps a).count d else 0

/-- Visiting an item removes its occurrences from what is left. -/
theorem length_filter_notMem_concat {l visited : List α} {item : α} (h : item ∉ visited) :
    (l.filter (· ∉ visited)).length =
      (l.filter (· ∉ visited ++ [item])).length + l.count item := by
  induction l with
  | nil => rfl
  | cons a l ih =>
    rw [List.filter_cons, List.filter_cons, List.count_cons]
    by_cases ha : a = item
    · subst ha
      rw [if_pos (decide_eq_true h), if_neg (by simp), if_pos (beq_self_eq_true a),
        List.length_cons, ih, Nat.add_assoc]
    · have hcount : (a == item) = false := beq_false_of_ne ha
      rw [hcount, if_neg Bool.false_ne_true, Nat.add_zero]
      by_cases hvisited : a ∈ visited
      · rw [if_neg (by simpa using hvisited), if_neg (by simp [hvisited]), ih]
      · rw [if_pos (decide_eq_true hvisited), if_pos (by simp [hvisited, ha]), List.length_cons,
          List.length_cons, ih, Nat.add_right_comm]

/-- **Taking a node keeps the invariant.** -/
theorem Inv.step (hout : Targets nodes deps outgoing) (h : Inv nodes deps s) {item : α}
    {rest : List α} (hqueue : s.queue = item :: rest) :
    Inv nodes deps ((outgoing item).foldl enter
      { s with queue := rest, visited := s.visited ++ [item] }) := by
  have hnodup := h.nodup
  rw [hqueue] at hnodup
  have hfresh : item ∉ s.visited := fun hin =>
    (List.nodup_append.1 hnodup).2.2 item hin item (.head _) rfl
  have hdrop : ∀ a ∈ nodes, s.indegree a =
      ((deps a).filter (· ∉ s.visited ++ [item])).length + (deps a).count item := by
    intro a ha
    rw [h.count a ha, length_filter_notMem_concat hfresh]
    exact Int.natCast_add _ _
  have hle : ∀ a, ((outgoing item).count a : Int) ≤ s.indegree a := by
    intro a
    rw [hout item a]
    split
    · next ha =>
      rw [hdrop a ha]
      omega
    · next ha => exact Int.le_of_eq (h.outside a ha).symm
  have hvisited := visited_foldl_enter (outgoing item)
    { s with queue := rest, visited := s.visited ++ [item] }
  obtain ⟨hindegree, new, hnew, hnewnodup, hmem⟩ := foldl_enter
    (s := { s with queue := rest, visited := s.visited ++ [item] }) hle
  have hnewnodes : ∀ a ∈ new, a ∈ nodes ∧ s.indegree a ≠ 0 := by
    intro a ha
    obtain ⟨htarget, hcount⟩ := (hmem a).1 ha
    have hpos := List.count_pos_iff.2 htarget
    refine ⟨?_, fun hzero => ?_⟩
    · by_contra hnot
      rw [hout item a, if_neg hnot] at hpos
      exact Nat.lt_irrefl _ hpos
    · simp only at hcount
      omega
  have hlist : s.visited ++ [item] ++ (rest ++ new) = s.visited ++ s.queue ++ new := by
    rw [hqueue]
    simp
  constructor
  · intro a ha
    rw [hindegree, hvisited, hout item a, if_pos ha]
    simp only [hdrop a ha]
    omega
  · intro a ha
    rw [hindegree, hout item a, if_neg ha]
    simp only [h.outside a ha]
    rfl
  · rw [hvisited, hnew, hlist, List.nodup_append]
    refine ⟨h.nodup, hnewnodup, fun a ha b hb he => ?_⟩
    subst he
    exact (hnewnodes a hb).2 ((h.free a (h.known a ha)).1 ha)
  · rw [hvisited, hnew, hlist]
    intro a ha
    rcases List.mem_append.1 ha with ha | ha
    · exact h.known a ha
    · exact (hnewnodes a ha).1
  · intro a ha
    rw [hvisited, hnew, hlist, hindegree, List.mem_append, h.free a ha, hmem]
    simp only
    have hcount := hle a
    constructor
    · rintro (hzero | ⟨-, hall⟩)
      · omega
      · omega
    · intro hzero
      rcases Nat.eq_zero_or_pos ((outgoing item).count a) with hnone | hpos
      · exact .inl (by omega)
      · exact .inr ⟨List.count_pos_iff.1 hpos, by omega⟩
  · rw [hvisited]
    refine h.ordered.concat hfresh fun d hd => ?_
    have hitem : item ∈ s.visited ++ s.queue := by
      rw [hqueue]
      exact List.mem_append_right _ (.head _)
    have hnode := h.known item hitem
    have hzero := (h.free item hnode).1 hitem
    rw [h.count item hnode, Int.natCast_eq_zero, List.length_eq_zero_iff,
      List.filter_eq_nil_iff] at hzero
    have hd := hzero d hd
    rwa [decide_eq_true_iff, not_not] at hd

/-- **The search comes to an end** with an empty queue, within a step for each node. -/
theorem drain_spec (hout : Targets nodes deps outgoing) (h : Inv nodes deps s) {fuel : Nat}
    (hfuel : nodes.length ≤ fuel + s.visited.length) :
    ∃ s', drain outgoing fuel s = some s' ∧ Inv nodes deps s' ∧ s'.queue = [] := by
  have hlength : (s.visited ++ s.queue).length ≤ nodes.length :=
    (List.subperm_of_subset h.nodup h.known).length_le
  rw [List.length_append] at hlength
  induction fuel generalizing s with
  | zero =>
    have hqueue : s.queue = [] := List.length_eq_zero_iff.1 (by omega)
    exact ⟨s, if_pos hqueue, h, hqueue⟩
  | succ fuel ih =>
    rw [drain]
    split
    · next hqueue => exact ⟨s, rfl, h, hqueue⟩
    · next item rest hqueue =>
      have hstep := h.step hout hqueue
      refine ih hstep ?_ ?_
      · rw [visited_foldl_enter, List.length_append, List.length_singleton]
        omega
      · have hle := (List.subperm_of_subset hstep.nodup hstep.known).length_le
        rwa [List.length_append] at hle

/-- What a node among the nodes depends on. -/
def DependsOn (nodes : List α) (deps : α → List α) (a d : α) : Prop := a ∈ nodes ∧ d ∈ deps a

/-- **All nodes are taken exactly when there is no cycle.** -/
theorem length_visited_iff (hnodup : nodes.Nodup) (hdeps : ∀ a ∈ nodes, ∀ d ∈ deps a, d ∈ nodes)
    (h : Inv nodes deps s) (hqueue : s.queue = []) :
    s.visited.length = nodes.length ↔ Acyclic (DependsOn nodes deps) := by
  have hvisited : s.visited.Nodup ∧ ∀ a ∈ s.visited, a ∈ nodes := by
    have hnodup := h.nodup
    have hknown := h.known
    rw [hqueue, List.append_nil] at hnodup hknown
    exact ⟨hnodup, hknown⟩
  constructor
  · intro hlength
    have hperm : s.visited.Perm nodes :=
      (List.subperm_of_subset hvisited.1 hvisited.2).perm_of_length_le (Nat.le_of_eq hlength.symm)
    refine .of_rank s.visited.idxOf fun a d had => ?_
    exact h.ordered.idxOf_lt (hperm.mem_iff.2 had.1) d had.2
  · intro hacyclic
    have hinside : ∀ a d, DependsOn nodes deps a d → d ∈ nodes :=
      fun a d had => hdeps a had.1 d had.2
    obtain ⟨rank, hrank⟩ := hacyclic.exists_rank hinside
    -- by rank, every node waits for nothing
    have hall : ∀ n, ∀ a ∈ nodes, rank a = n → a ∈ s.visited := by
      intro n
      induction n using Nat.strongRecOn with
      | ind n ih =>
        rintro a ha rfl
        have hzero : s.indegree a = 0 := by
          rw [h.count a ha, Int.natCast_eq_zero, List.length_eq_zero_iff, List.filter_eq_nil_iff]
          intro d hd
          rw [decide_eq_true_iff, not_not]
          exact ih _ (hrank a d ⟨ha, hd⟩) d (hdeps a ha d hd) rfl
        have hmem := (h.free a ha).2 hzero
        rwa [hqueue, List.append_nil] at hmem
    have hperm : s.visited.Perm nodes := (List.perm_ext_iff_of_nodup hvisited.1 hnodup).2
      fun a => ⟨hvisited.2 a, fun ha => hall _ a ha rfl⟩
    exact hperm.length_eq

end

/-! ## Spreading along the edges -/

/-- Adds a node that was not reached. -/
def reach (s : List α × List α) (target : α) : List α × List α :=
  if target ∈ s.1 then s else (s.1 ++ [target], s.2 ++ [target])

/-- The nodes reached, when every node of the frontier has passed on what it leads to. -/
def spread (outgoing : α → List α) : Nat → List α × List α → Option (List α)
  | 0, s => if s.2 = [] then some s.1 else none
  | fuel + 1, s =>
    match s.2 with
    | [] => some s.1
    | item :: rest => spread outgoing fuel ((outgoing item).foldl reach (s.1, rest))

/-- What reaching some targets does. -/
theorem foldl_reach (targets : List α) (s : List α × List α) :
    ∃ new, targets.foldl reach s = (s.1 ++ new, s.2 ++ new) ∧ (s.1.Nodup → (s.1 ++ new).Nodup) ∧
      (∀ a ∈ new, a ∈ targets) ∧ ∀ a ∈ targets, a ∈ s.1 ++ new := by
  induction targets generalizing s with
  | nil => exact ⟨[], by simp⟩
  | cons t targets ih =>
    rw [List.foldl_cons]
    by_cases ht : t ∈ s.1
    · rw [reach, if_pos ht]
      obtain ⟨new, heq, hnodup, hnew, hreached⟩ := ih s
      refine ⟨new, heq, hnodup, fun a ha => .tail _ (hnew a ha), fun a ha => ?_⟩
      rcases List.mem_cons.1 ha with rfl | ha
      · exact List.mem_append_left _ ht
      · exact hreached a ha
    · rw [reach, if_neg ht]
      obtain ⟨new, heq, hnodup, hnew, hreached⟩ := ih (s.1 ++ [t], s.2 ++ [t])
      simp only [List.append_assoc, List.singleton_append] at heq hnodup hreached
      refine ⟨t :: new, heq, fun h => hnodup ?_, fun a ha => ?_, fun a ha => ?_⟩
      · exact List.nodup_append.2 ⟨h, List.nodup_singleton t, fun a ha b hb he =>
          ht (List.mem_singleton.1 hb ▸ he ▸ ha)⟩
      · rcases List.mem_cons.1 ha with rfl | ha
        · exact .head _
        · exact .tail _ (hnew a ha)
      · rcases List.mem_cons.1 ha with rfl | ha
        · exact List.mem_append_right _ (.head _)
        · exact hreached a ha

/-- **The spreading comes to an end**, within a step for each node: what is reached holds what it
started with and what that leads to. -/
theorem spread_spec {nodes : List α} {outgoing : α → List α}
    (hout : ∀ d, ∀ a ∈ outgoing d, a ∈ nodes) {done frontier : List α}
    (hnodup : (done ++ frontier).Nodup) (hknown : ∀ a ∈ done ++ frontier, a ∈ nodes)
    (hdone : ∀ a ∈ done, ∀ t ∈ outgoing a, t ∈ done ++ frontier) {fuel : Nat}
    (hfuel : nodes.length ≤ fuel + done.length) :
    ∃ reached, spread outgoing fuel (done ++ frontier, frontier) = some reached ∧
      done ++ frontier ⊆ reached ∧ reached ⊆ nodes ∧ ∀ a ∈ reached, ∀ t ∈ outgoing a, t ∈ reached := by
  have hlength := (List.subperm_of_subset hnodup hknown).length_le
  rw [List.length_append] at hlength
  induction fuel generalizing done frontier with
  | zero =>
    obtain rfl : frontier = [] := List.length_eq_zero_iff.1 (by omega)
    rw [List.append_nil] at hknown hdone ⊢
    exact ⟨done, rfl, List.Subset.refl _, hknown, hdone⟩
  | succ fuel ih =>
    cases frontier with
    | nil =>
      rw [List.append_nil] at hknown hdone ⊢
      exact ⟨done, rfl, List.Subset.refl _, hknown, hdone⟩
    | cons item rest =>
      rw [spread]
      simp only
      obtain ⟨new, heq, hnewnodup, hnew, hreached⟩ := foldl_reach (outgoing item)
        (done ++ item :: rest, rest)
      have hlist : done ++ item :: rest ++ new = done ++ [item] ++ (rest ++ new) := by simp
      simp only [hlist] at heq hnewnodup hreached
      have hknown' : ∀ a ∈ done ++ [item] ++ (rest ++ new), a ∈ nodes := by
        rw [← hlist]
        intro a ha
        rcases List.mem_append.1 ha with ha | ha
        · exact hknown a ha
        · exact hout item a (hnew a ha)
      have hnodup' := hnewnodup hnodup
      have hlength' := (List.subperm_of_subset hnodup' hknown').length_le
      rw [List.length_append] at hlength'
      rw [heq]
      obtain ⟨reached, hspread, hsubset, hnodes, hclosed⟩ := ih hnodup' hknown' (fun a ha t ht => by
        rcases List.mem_append.1 ha with ha | ha
        · rw [← hlist]
          exact List.mem_append_left _ (hdone a ha t ht)
        · exact hreached t (List.mem_singleton.1 ha ▸ ht)) (by
          rw [List.length_append, List.length_singleton]
          omega) hlength'
      refine ⟨reached, hspread, List.Subset.trans ?_ hsubset, hnodes, hclosed⟩
      rw [← hlist]
      exact List.subset_append_left _ _

end

end Topological
