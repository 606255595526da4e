import LawFirmDigitalTwin.Lib.Groups
import LawFirmDigitalTwin.Lib.Topological
import LawFirmDigitalTwin.PyValue

/-!
# The dependencies of the litigation lifecycle

`_dag_errors` of `litigation_lifecycle_validator.py`: the stages of a lifecycle, or the nodes of a
dossier, depend on each other without cycles, and start at one root. The two loops that go by a
queue take a fuel; a step for each stage is enough (`dagErrors_eq_nil_iff`).
-/

namespace LawFirmDigitalTwin

open Topological

/-- `dependencies.get(item, ())`. -/
def prerequisites (dependencies : PyDict (List String)) (item : String) : List String :=
  (dependencies.get? item).getD []

/-- What the first loop of `_dag_errors` has gathered. -/
structure EdgeCount where
  errors : List String
  indegree : String → Int
  outgoing : String → List String

/-- The body of the first loop of `_dag_errors`. -/
def EdgeCount.add (ids : List String) (item : String) (s : EdgeCount) (dependency : String) :
    EdgeCount :=
  if dependency ∉ ids then
    { s with errors := s.errors ++ ["unknown_dependency:" ++ item ++ ":" ++ dependency] }
  else if dependency = item then { s with errors := s.errors ++ ["self_dependency:" ++ item] }
  else
    { s with
      indegree := Function.update s.indegree item (s.indegree item + 1)
      outgoing := Function.update s.outgoing dependency (s.outgoing dependency ++ [item]) }

/-- The first loop of `_dag_errors`. -/
def countEdges (ids : List String) (dependencies : PyDict (List String)) : EdgeCount :=
  ids.foldl (fun s item => (prerequisites dependencies item).foldl (EdgeCount.add ids item) s)
    ⟨[], fun _ => 0, fun _ => []⟩

/-- `_dag_errors`. -/
def dagErrors (fuel : Nat) (ids : List String) (dependencies : PyDict (List String))
    (expectedRoot : String) : Option (List String) := do
  let counted := countEdges ids dependencies
  let queue := ((Groups.distinct ids).filter fun item => counted.indegree item = 0).insertionSort
    (· ≤ ·)
  let drained ← drain (fun item => (counted.outgoing item).insertionSort (· ≤ ·)) fuel
    ⟨counted.indegree, queue, []⟩
  let roots := ids.filter fun item => prerequisites dependencies item = []
  let reachable ← spread counted.outgoing fuel (Groups.distinct roots, roots)
  return counted.errors ++
    (if drained.visited.length ≠ ids.length then ["cycle_detected"] else []) ++
    (if roots ≠ [expectedRoot] then ["root_must_be_referral_packet"] else []) ++
    (if ¬ (reachable ⊆ ids ∧ ids ⊆ reachable) then ["unreachable_document_type"] else [])

/-- The stages depend on each other without cycles, from one root. -/
structure IsLifecycle (ids : List String) (dependencies : PyDict (List String))
    (expectedRoot : String) : Prop where
  known : ∀ item ∈ ids, ∀ dependency ∈ prerequisites dependencies item, dependency ∈ ids
  noSelf : ∀ item ∈ ids, item ∉ prerequisites dependencies item
  acyclic : Acyclic fun item dependency =>
    item ∈ ids ∧ dependency ∈ prerequisites dependencies item
  root : ∀ item, item ∈ ids ∧ prerequisites dependencies item = [] ↔ item = expectedRoot

/-! ## What the first loop gathers -/

/-- The dependencies that make an edge. -/
def edgesOf (ids : List String) (item : String) (dependencies : List String) : List String :=
  dependencies.filter fun dependency => dependency ∈ ids ∧ dependency ≠ item

/-- The errors of a dependency. -/
def edgeErrors (ids : List String) (item dependency : String) : List String :=
  if dependency ∉ ids then ["unknown_dependency:" ++ item ++ ":" ++ dependency]
  else if dependency = item then ["self_dependency:" ++ item]
  else []

section
variable {ids : List String}

/-- Counting a list of edges adds to each count what is in the list. -/
theorem foldl_add (item : String) (ds : List String) (s : EdgeCount) :
    (ds.foldl (EdgeCount.add ids item) s).errors = s.errors ++ ds.flatMap (edgeErrors ids item) ∧
      (∀ a, (ds.foldl (EdgeCount.add ids item) s).indegree a =
        s.indegree a + if a = item then ((edgesOf ids item ds).length : Int) else 0) ∧
      ∀ d a, ((ds.foldl (EdgeCount.add ids item) s).outgoing d).count a =
        (s.outgoing d).count a + if a = item then (edgesOf ids item ds).count d else 0 := by
  induction ds generalizing s with
  | nil => simp [edgesOf]
  | cons d ds ih =>
    rw [List.foldl_cons, List.flatMap_cons]
    obtain ⟨herrors, hindegree, houtgoing⟩ := ih (EdgeCount.add ids item s d)
    by_cases hedge : d ∈ ids ∧ d ≠ item
    · have hadd : EdgeCount.add ids item s d =
          { s with
            indegree := Function.update s.indegree item (s.indegree item + 1)
            outgoing := Function.update s.outgoing d (s.outgoing d ++ [item]) } := by
        rw [EdgeCount.add, if_neg (not_not.2 hedge.1), if_neg hedge.2]
      have hedges : edgesOf ids item (d :: ds) = d :: edgesOf ids item ds :=
        List.filter_cons_of_pos (decide_eq_true hedge)
      refine ⟨?_, fun a => ?_, fun d' a => ?_⟩
      · rw [herrors, hadd, edgeErrors, if_neg (not_not.2 hedge.1), if_neg hedge.2, List.nil_append]
      · rw [hindegree, hadd, hedges, List.length_cons]
        simp only [Function.update_apply]
        split
        · next h =>
          rw [h]
          omega
        · rfl
      · rw [houtgoing, hadd, hedges, List.count_cons]
        simp only [Function.update_apply]
        by_cases hd : d' = d
        · subst hd
          by_cases ha : a = item
          · simp [ha]
            omega
          · simp [ha, Ne.symm ha]
        · simp [hd, Ne.symm hd]
    · have hadd : EdgeCount.add ids item s d =
          { s with errors := s.errors ++ edgeErrors ids item d } := by
        unfold EdgeCount.add edgeErrors
        split
        · rfl
        · next hin =>
          rw [if_pos (by_contra fun hne => hedge ⟨not_not.1 hin, hne⟩)]
          rw [if_pos (by_contra fun hne => hedge ⟨not_not.1 hin, hne⟩)]
      have hedges : edgesOf ids item (d :: ds) = edgesOf ids item ds :=
        List.filter_cons_of_neg (by simpa using hedge)
      rw [hadd] at herrors hindegree houtgoing ⊢
      refine ⟨by rw [herrors, List.append_assoc], fun a => ?_, fun d' a => ?_⟩
      · rw [hindegree, hedges]
      · rw [houtgoing, hedges]

/-- What the first loop has gathered after some of the stages. -/
theorem foldl_countEdges {dependencies : PyDict (List String)} {items : List String}
    (hnodup : items.Nodup) (s : EdgeCount) :
    let counted := items.foldl (fun s item =>
      (prerequisites dependencies item).foldl (EdgeCount.add ids item) s) s
    let edges := fun item => edgesOf ids item (prerequisites dependencies item)
    counted.errors = s.errors ++ items.flatMap (fun item =>
        (prerequisites dependencies item).flatMap (edgeErrors ids item)) ∧
      (∀ a, counted.indegree a = s.indegree a + if a ∈ items then ((edges a).length : Int) else 0) ∧
      ∀ d a, (counted.outgoing d).count a =
        (s.outgoing d).count a + if a ∈ items then (edges a).count d else 0 := by
  induction items generalizing s with
  | nil => simp
  | cons item items ih =>
    obtain ⟨hitem, hnodup⟩ := List.nodup_cons.1 hnodup
    obtain ⟨herrors, hindegree, houtgoing⟩ := @foldl_add ids item
      (prerequisites dependencies item) s
    obtain ⟨herrors', hindegree', houtgoing'⟩ := ih hnodup
      ((prerequisites dependencies item).foldl (EdgeCount.add ids item) s)
    simp only [List.foldl_cons, List.flatMap_cons]
    refine ⟨by rw [herrors', herrors, List.append_assoc], fun a => ?_, fun d a => ?_⟩
    · rw [hindegree', hindegree]
      by_cases ha : a = item
      · subst ha
        simp [hitem]
      · simp [ha]
    · rw [houtgoing', houtgoing]
      by_cases ha : a = item
      · subst ha
        simp [hitem]
      · simp [ha]

variable {dependencies : PyDict (List String)}

/-- The dependencies of a stage that make an edge. -/
def edges (ids : List String) (dependencies : PyDict (List String)) (item : String) : List String :=
  edgesOf ids item (prerequisites dependencies item)

/-- No edge is an error where none is unknown and none a loop. -/
theorem countEdges_errors (hnodup : ids.Nodup) :
    (countEdges ids dependencies).errors = [] ↔
      (∀ item ∈ ids, ∀ d ∈ prerequisites dependencies item, d ∈ ids) ∧
        ∀ item ∈ ids, item ∉ prerequisites dependencies item := by
  have herrors : (countEdges ids dependencies).errors = ids.flatMap fun item =>
      (prerequisites dependencies item).flatMap (edgeErrors ids item) :=
    (foldl_countEdges hnodup _).1
  have hnone : ∀ item d, edgeErrors ids item d = [] ↔ d ∈ ids ∧ d ≠ item := by
    intro item d
    unfold edgeErrors
    split
    · next h => exact iff_of_false (List.cons_ne_nil _ _) fun hd => h hd.1
    split
    · next h => exact iff_of_false (List.cons_ne_nil _ _) fun hd => hd.2 h
    · next hin hne => exact iff_of_true rfl ⟨not_not.1 hin, hne⟩
  simp only [herrors, List.flatMap_eq_nil_iff, hnone]
  constructor
  · exact fun h => ⟨fun item hitem d hd => (h item hitem d hd).1,
      fun item hitem hself => (h item hitem item hself).2 rfl⟩
  · rintro ⟨hknown, hself⟩ item hitem d hd
    exact ⟨hknown item hitem d hd, fun he => hself item hitem (he ▸ hd)⟩

/-- The outgoing lists hold each stage as often as it has the dependency. -/
theorem targets_outgoing (hnodup : ids.Nodup) :
    Targets ids (edges ids dependencies) (countEdges ids dependencies).outgoing := by
  intro d a
  have houtgoing := (@foldl_countEdges ids dependencies ids hnodup
    ⟨[], fun _ => 0, fun _ => []⟩).2.2 d a
  rw [List.count_nil, Nat.zero_add] at houtgoing
  exact houtgoing

/-- At the start nothing is taken, and the stages without an edge are queued. -/
theorem inv_start (hnodup : ids.Nodup) :
    Topological.Inv ids (edges ids dependencies) ⟨(countEdges ids dependencies).indegree,
      ((Groups.distinct ids).filter fun item =>
        (countEdges ids dependencies).indegree item = 0).insertionSort (· ≤ ·), []⟩ := by
  have hindegree : ∀ a, (countEdges ids dependencies).indegree a =
      if a ∈ ids then ((edges ids dependencies a).length : Int) else 0 := fun a =>
    ((foldl_countEdges hnodup _).2.1 a).trans (Int.zero_add _)
  have hqueue : ∀ a, a ∈ ((Groups.distinct ids).filter fun item =>
      (countEdges ids dependencies).indegree item = 0).insertionSort (· ≤ ·) ↔
        a ∈ ids ∧ (countEdges ids dependencies).indegree a = 0 := by
    intro a
    rw [(List.perm_insertionSort _ _).mem_iff, List.mem_filter, Groups.mem_distinct,
      decide_eq_true_iff]
  constructor
  · intro a ha
    have hall : (edges ids dependencies a).filter (· ∉ ([] : List String)) =
        edges ids dependencies a := List.filter_eq_self.2 fun d _ => decide_eq_true List.not_mem_nil
    simp only [hindegree, if_pos ha, hall]
  · intro a ha
    simp only [hindegree, if_neg ha]
  · rw [List.nil_append, (List.perm_insertionSort _ _).nodup_iff]
    exact (Groups.nodup_distinct ids).filter _
  · intro a ha
    exact ((hqueue a).1 ha).1
  · intro a ha
    rw [List.nil_append, hqueue, and_iff_right ha]
  · exact .nil

/-- The stages that are reached from those without an edge, where every stage is taken. -/
theorem subset_of_closed {order reached : List String} (hnodup : ids.Nodup)
    (hordered : DepthFirst.Ordered id (edges ids dependencies) order) (horder : order.Perm ids)
    (hstart : ∀ a ∈ ids, edges ids dependencies a = [] → a ∈ reached)
    (hclosed : ∀ a ∈ reached, ∀ t ∈ (countEdges ids dependencies).outgoing a, t ∈ reached) :
    ids ⊆ reached := by
  have hback : ∀ a ∈ order, ∀ d ∈ edges ids dependencies a, d ∈ reached → a ∈ reached := by
    intro a ha d hd hreached
    refine hclosed d hreached a (List.count_pos_iff.1 ?_)
    rw [targets_outgoing hnodup d a, if_pos (horder.mem_iff.1 ha)]
    exact List.count_pos_iff.2 hd
  intro a ha
  exact forall_mem_of_ordered hordered (fun a ha => hstart a (horder.mem_iff.1 ha)) hback a
    (horder.mem_iff.2 ha)

/-- Without an error before, the edges are the dependencies. -/
theorem edges_eq (hknown : ∀ item ∈ ids, ∀ d ∈ prerequisites dependencies item, d ∈ ids)
    (hself : ∀ item ∈ ids, item ∉ prerequisites dependencies item) {a : String} (ha : a ∈ ids) :
    edges ids dependencies a = prerequisites dependencies a :=
  List.filter_eq_self.2 fun d hd =>
    decide_eq_true ⟨hknown a ha d hd, fun he => hself a ha (he ▸ hd)⟩

/-- The single root is the one item without prerequisites. -/
theorem roots_eq_singleton (hnodup : ids.Nodup) (root : String) :
    (ids.filter fun item => prerequisites dependencies item = []) = [root] ↔
      ∀ item, item ∈ ids ∧ prerequisites dependencies item = [] ↔ item = root := by
  have hmem : ∀ item, item ∈ ids.filter (fun item => prerequisites dependencies item = []) ↔
      item ∈ ids ∧ prerequisites dependencies item = [] := by
    intro item
    rw [List.mem_filter, decide_eq_true_iff]
  constructor
  · intro h item
    rw [← hmem, h, List.mem_singleton]
  · intro h
    refine List.perm_singleton.1
      ((List.perm_ext_iff_of_nodup (hnodup.filter _) (List.nodup_singleton root)).2 fun item => ?_)
    rw [hmem, h, List.mem_singleton]

end

/-- **The check of the lifecycle is exact.** For stages with distinct ids it comes to an end, and
reports nothing exactly when the stages depend on each other without cycles, from the expected
root. -/
theorem dagErrors_eq_nil_iff {ids : List String} (hnodup : ids.Nodup)
    (dependencies : PyDict (List String)) (expectedRoot : String) {fuel : Nat}
    (hfuel : ids.length ≤ fuel) :
    ∃ errors, dagErrors fuel ids dependencies expectedRoot = some errors ∧
      (errors = [] ↔ IsLifecycle ids dependencies expectedRoot) := by
  have htargets : Targets ids (edges ids dependencies) (countEdges ids dependencies).outgoing :=
    targets_outgoing hnodup
  have hsorted : Targets ids (edges ids dependencies) fun item =>
      ((countEdges ids dependencies).outgoing item).insertionSort (· ≤ ·) := fun d a =>
    ((List.perm_insertionSort _ _).count_eq a).trans (htargets d a)
  obtain ⟨drained, hdrain, hinv, hempty⟩ := drain_spec hsorted (inv_start hnodup) hfuel
  have hknown : ∀ d, ∀ a ∈ (countEdges ids dependencies).outgoing d, a ∈ ids := by
    intro d a ha
    by_contra hnot
    have hcount := htargets d a
    rw [if_neg hnot, List.count_eq_zero] at hcount
    exact hcount ha
  have hroots : ∀ a ∈ [] ++ ids.filter (fun item => prerequisites dependencies item = []),
      a ∈ ids := fun a ha => (List.mem_filter.1 ha).1
  obtain ⟨reached, hspread, hstart, hinside, hclosed⟩ := spread_spec hknown
    (hnodup.filter _) hroots (List.forall_mem_nil _) hfuel
  rw [List.nil_append] at hspread hstart
  have herrors : dagErrors fuel ids dependencies expectedRoot =
      some ((countEdges ids dependencies).errors ++
        (if drained.visited.length ≠ ids.length then ["cycle_detected"] else []) ++
        (if (ids.filter fun item => prerequisites dependencies item = []) ≠ [expectedRoot] then
          ["root_must_be_referral_packet"] else []) ++
        (if ¬ (reached ⊆ ids ∧ ids ⊆ reached) then ["unreachable_document_type"] else [])) := by
    simp only [dagErrors, hdrain, Groups.distinct_of_nodup (hnodup.filter _), hspread,
      Option.bind_eq_bind, Option.bind_some]
    rfl
  refine ⟨_, herrors, ?_⟩
  simp only [List.append_eq_nil_iff, ite_eq_right_iff, List.cons_ne_nil, imp_false, not_not,
    countEdges_errors hnodup, roots_eq_singleton hnodup]
  have hedgesKnown : ∀ a ∈ ids, ∀ d ∈ edges ids dependencies a, d ∈ ids := fun a _ d hd =>
    (of_decide_eq_true (List.mem_filter.1 hd).2).1
  have hcycle := length_visited_iff hnodup hedgesKnown hinv hempty
  have hsame : (∀ item ∈ ids, ∀ d ∈ prerequisites dependencies item, d ∈ ids) →
      (∀ item ∈ ids, item ∉ prerequisites dependencies item) →
      DependsOn ids (edges ids dependencies) = fun item dependency =>
        item ∈ ids ∧ dependency ∈ prerequisites dependencies item := by
    intro hknown hself
    funext a d
    exact propext (and_congr_right fun ha => by rw [edges_eq hknown hself ha])
  constructor
  · rintro ⟨⟨⟨⟨hknown, hself⟩, hlength⟩, hroot⟩, -⟩
    exact ⟨hknown, hself, hsame hknown hself ▸ hcycle.1 hlength, hroot⟩
  · rintro ⟨hknown, hself, hacyclic, hroot⟩
    have hlength := hcycle.2 (hsame hknown hself ▸ hacyclic)
    refine ⟨⟨⟨⟨hknown, hself⟩, hlength⟩, hroot⟩, hinside, ?_⟩
    have hnodup' := hinv.nodup
    have hinside' := hinv.known
    rw [hempty, List.append_nil] at hnodup' hinside'
    have horder : drained.visited.Perm ids :=
      (List.subperm_of_subset hnodup' hinside').perm_of_length_le (Nat.le_of_eq hlength.symm)
    refine subset_of_closed hnodup hinv.ordered horder (fun a ha hnone => ?_) hclosed
    rw [edges_eq hknown hself ha] at hnone
    exact hstart (List.mem_filter.2 ⟨ha, decide_eq_true hnone⟩)

/-- A referral and its invoice make a graph without errors. -/
theorem dagErrors_referral :
    let dependencies := PyDict.ofEntries [("referral_packet", []), ("invoice", ["referral_packet"])]
    ∃ errors, dagErrors 2 ["referral_packet", "invoice"] dependencies "referral_packet" = some errors ∧
      (errors = [] ↔ IsLifecycle ["referral_packet", "invoice"] dependencies "referral_packet") :=
  dagErrors_eq_nil_iff (by decide) _ _ (by decide)

end LawFirmDigitalTwin
