import LawFirmDigitalTwin.Lib.Topological

/-!
# Depth-first search for one cycle

A search that stops at the first cycle: it tells whether a node leads back to the path on which it
was met, and otherwise finishes it. Started at every node, it finds a cycle exactly when there is
one (`search_spec`). The depth of the recursion is bounded; a level for each node and one more are
enough.
-/

namespace CycleSearch

open Topological

variable {α : Type*}

/-- The nodes of the current path, and those that are finished. -/
structure Search (α : Type*) where
  visiting : List α
  visited : List α

/-- Visits one node after the other, up to the first one that meets a cycle. -/
def anyOf (visit : α → Search α → Option (Bool × Search α)) :
    List α → Search α → Option (Bool × Search α)
  | [], s => some (false, s)
  | a :: rest, s => (visit a s).bind fun r => if r.1 then some (true, r.2) else anyOf visit rest r.2

/-- A search that has a result leaves the path as it was. -/
def Returns (s : Search α) (result : Option (Bool × Search α)) : Prop :=
  ∃ r, result = some r ∧ r.2.visiting = s.visiting

/-- The loop over neighbours returns where each of the visits does, on the same path. -/
theorem anyOf_returns {f : α → Search α → Option (Bool × Search α)} {l path : List α}
    (hf : ∀ a ∈ l, ∀ s : Search α, s.visiting = path → Returns s (f a s)) {s : Search α}
    (hs : s.visiting = path) : Returns s (anyOf f l s) := by
  induction l generalizing s with
  | nil => exact ⟨_, rfl, rfl⟩
  | cons a l ih =>
    obtain ⟨r, hr, hpath⟩ := hf a (.head _) s hs
    rw [anyOf, hr, Option.bind_some]
    split
    · exact ⟨_, rfl, hpath⟩
    · obtain ⟨r', hr', hpath'⟩ := ih (fun b hb => hf b (.tail _ hb)) (hpath.trans hs)
      exact ⟨r', hr', hpath'.trans hpath⟩

/-- The same state of the search that collects the cycles. -/
def Search.collect (s : Search α) : DepthFirst.Search α α := ⟨s.visiting, s.visited, []⟩

/-- A loop that finds no cycle collects what the depth-first search collects. -/
theorem anyOf_collect {f : α → Search α → Option (Bool × Search α)}
    {g : α → DepthFirst.Search α α → Option (DepthFirst.Search α α)}
    (hf : ∀ a s s', f a s = some (false, s') → g a s.collect = some s'.collect) {l : List α}
    {s s' : Search α} (h : anyOf f l s = some (false, s')) :
    DepthFirst.visitAll g l s.collect = some s'.collect := by
  induction l generalizing s with
  | nil =>
    cases h
    rfl
  | cons a l ih =>
    obtain ⟨r, hr, hrest⟩ := Option.bind_eq_some_iff.1 h
    obtain ⟨found, mid⟩ := r
    cases found with
    | true => cases hrest
    | false =>
      rw [DepthFirst.visitAll, hf a s mid hr, Option.bind_some]
      exact ih hrest

section
variable [DecidableEq α] (next : α → List α)

/-- Whether a cycle is met at a node or behind it. -/
def visit : Nat → α → Search α → Option (Bool × Search α)
  | 0, _, _ => none
  | depth + 1, a, s =>
    if a ∈ s.visiting then some (true, s)
    else if a ∈ s.visited then some (false, s)
    else
      (anyOf (visit depth) (next a) { s with visiting := a :: s.visiting }).map fun r =>
        (r.1, { visiting := r.2.visiting.erase a, visited := r.2.visited ++ [a] })

end

section
variable [DecidableEq α] {next : α → List α}

/-! ## The search comes to an end -/

/-- **A level for each node is enough**: the path holds no node twice. -/
theorem visit_returns {nodes : List α} (hnext : ∀ a ∈ nodes, ∀ b ∈ next a, b ∈ nodes) {depth : Nat}
    {a : α} (ha : a ∈ nodes) {s : Search α} (hnodup : s.visiting.Nodup)
    (hpath : ∀ b ∈ s.visiting, b ∈ nodes) (hdepth : nodes.length < depth + s.visiting.length) :
    Returns s (visit next depth a s) := by
  induction depth generalizing a s with
  | zero =>
    have hle := (List.subperm_of_subset hnodup hpath).length_le
    omega
  | succ depth ih =>
    rw [visit]
    split
    · exact ⟨_, rfl, rfl⟩
    split
    · exact ⟨_, rfl, rfl⟩
    next hvisiting _ =>
    have hinside : Returns { s with visiting := a :: s.visiting }
        (anyOf (visit next depth) (next a) { s with visiting := a :: s.visiting }) := by
      refine anyOf_returns (fun b hb s' hs' => ih (hnext a ha b hb) ?_ ?_ ?_) rfl
      · exact hs' ▸ List.nodup_cons.2 ⟨hvisiting, hnodup⟩
      · exact hs' ▸ List.forall_mem_cons.2 ⟨ha, hpath⟩
      · rw [hs', List.length_cons]
        omega
    obtain ⟨r, hr, hrpath⟩ := hinside
    refine ⟨_, by rw [hr, Option.map_some], ?_⟩
    rw [hrpath]
    exact List.erase_cons_head _ _

/-! ## What is not found -/

/-- **A visit that meets no cycle** is one of the search that collects them. -/
theorem visit_collect {depth : Nat} {a : α} {s s' : Search α}
    (h : visit next depth a s = some (false, s')) :
    DepthFirst.visit id next depth a s.collect = some s'.collect := by
  induction depth generalizing a s s' with
  | zero => cases h
  | succ depth ih =>
    rw [visit] at h
    rw [DepthFirst.visit]
    split at h
    · cases h
    next hvisiting =>
    refine (if_neg hvisiting).trans ?_
    split at h
    · next hvisited =>
      cases h
      exact if_pos hvisited
    next hvisited =>
    refine (if_neg hvisited).trans ?_
    obtain ⟨r, hr, heq⟩ := Option.map_eq_some_iff.1 h
    obtain ⟨found, inside⟩ := r
    cases heq
    have hinside := anyOf_collect (f := visit next depth) (fun b s s' => ih) hr
    exact congrArg (Option.map _) hinside

/-! ## What is found -/

/-- Where every edge goes down in rank, a visit from below the path meets no cycle. -/
theorem visit_of_rank {rank : α → Nat} {nodes : List α}
    (hrank : ∀ a ∈ nodes, ∀ b ∈ next a, rank b < rank a)
    (hnext : ∀ a ∈ nodes, ∀ b ∈ next a, b ∈ nodes) {depth : Nat} {a : α} (ha : a ∈ nodes)
    {s : Search α} {r : Bool × Search α} (h : visit next depth a s = some r)
    (hpath : ∀ b ∈ s.visiting, rank a < rank b) : r.1 = false ∧ r.2.visiting = s.visiting := by
  induction depth generalizing a s r with
  | zero => cases h
  | succ depth ih =>
    rw [visit] at h
    split at h
    · next hvisiting => exact absurd (hpath a hvisiting) (Nat.lt_irrefl _)
    split at h
    · cases h
      exact ⟨rfl, rfl⟩
    obtain ⟨inside, hinside, rfl⟩ := Option.map_eq_some_iff.1 h
    have hbelow : ∀ b ∈ a :: s.visiting, rank a ≤ rank b :=
      List.forall_mem_cons.2 ⟨Nat.le_refl _, fun b hb => Nat.le_of_lt (hpath b hb)⟩
    -- every node behind this one is below the path
    have hall : ∀ (l : List α) (s' : Search α) (r : Bool × Search α), (∀ b ∈ l, b ∈ next a) →
        s'.visiting = a :: s.visiting → anyOf (visit next depth) l s' = some r →
          r.1 = false ∧ r.2.visiting = a :: s.visiting := by
      intro l
      induction l with
      | nil =>
        intro s' r _ hs' hr
        cases hr
        exact ⟨rfl, hs'⟩
      | cons b l ihl =>
        intro s' r hl hs' hr
        obtain ⟨first, hfirst, hrest⟩ := Option.bind_eq_some_iff.1 hr
        have hb := hl b (.head _)
        obtain ⟨hfalse, hkept⟩ := ih (hnext a ha b hb) hfirst fun c hc =>
          Nat.lt_of_lt_of_le (hrank a ha b hb) (hbelow c (hs' ▸ hc))
        rw [hfalse, if_neg Bool.false_ne_true] at hrest
        exact ihl _ _ (fun c hc => hl c (.tail _ hc)) (hkept.trans hs') hrest
    obtain ⟨hfalse, hkept⟩ := hall _ _ _ (fun _ hb => hb) rfl hinside
    refine ⟨hfalse, ?_⟩
    rw [hkept]
    exact List.erase_cons_head _ _

/-- With a rank that falls along every edge the search finds no cycle. -/
theorem anyOf_of_rank {rank : α → Nat} {nodes : List α}
    (hrank : ∀ a ∈ nodes, ∀ b ∈ next a, rank b < rank a)
    (hnext : ∀ a ∈ nodes, ∀ b ∈ next a, b ∈ nodes) {depth : Nat} {l : List α}
    (hl : ∀ a ∈ l, a ∈ nodes) {s : Search α} (hs : s.visiting = []) {r : Bool × Search α}
    (h : anyOf (visit next depth) l s = some r) : r.1 = false := by
  induction l generalizing s with
  | nil =>
    cases h
    rfl
  | cons a l ih =>
    obtain ⟨first, hfirst, hrest⟩ := Option.bind_eq_some_iff.1 h
    obtain ⟨hfalse, hkept⟩ := visit_of_rank hrank hnext (hl a (.head _)) hfirst (by simp [hs])
    rw [hfalse, if_neg Bool.false_ne_true] at hrest
    exact ih (fun b hb => hl b (.tail _ hb)) (hkept.trans hs) hrest

/-- **Started at every node, the search finds a cycle exactly when there is one.** -/
theorem search_spec {nodes : List α} (hnext : ∀ a ∈ nodes, ∀ b ∈ next a, b ∈ nodes) {depth : Nat}
    (hdepth : nodes.length < depth) :
    ∃ r, anyOf (visit next depth) nodes ⟨[], []⟩ = some r ∧
      (r.1 = true ↔ ¬ Acyclic (DependsOn nodes next)) := by
  have hreturns : Returns (⟨[], []⟩ : Search α) (anyOf (visit next depth) nodes ⟨[], []⟩) := by
    refine anyOf_returns (fun a ha s (hs : s.visiting = []) => visit_returns hnext ha ?_ ?_ ?_) rfl
    · exact hs ▸ .nil
    · exact hs ▸ List.forall_mem_nil _
    · rw [hs]
      exact hdepth
  obtain ⟨r, hr, -⟩ := hreturns
  refine ⟨r, hr, ?_⟩
  constructor
  · intro hfound hacyclic
    have hinside : ∀ a b, DependsOn nodes next a b → b ∈ nodes :=
      fun a b hab => hnext a hab.1 b hab.2
    obtain ⟨rank, hrank⟩ := hacyclic.exists_rank hinside
    have hfalse := anyOf_of_rank (fun a ha b hb => hrank a b ⟨ha, hb⟩) hnext (fun _ ha => ha) rfl hr
    rw [hfalse] at hfound
    cases hfound
  · intro hcycle
    by_contra hnot
    have hnone : r.1 = false := Bool.eq_false_iff.2 hnot
    have hr' : anyOf (visit next depth) nodes ⟨[], []⟩ = some (false, r.2) := by
      rw [hr, ← hnone]
    obtain ⟨hordered, hall⟩ := DepthFirst.ordered_of_visitAll
      (anyOf_collect (fun a s s' => visit_collect) hr') rfl
    have hedge : ∀ a b, DependsOn nodes next a b → a ∈ r.2.collect.visited ∧ b ∈ next a :=
      fun a b hab => ⟨hall a hab.1, hab.2⟩
    exact hcycle fun a h => Acyclic.of_ordered hordered a (Relation.TransGen.mono hedge a a h)

end

end CycleSearch
