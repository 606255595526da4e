import Mathlib.Data.Finset.Card
import Mathlib.Data.List.Basic
import Mathlib.Data.List.Nodup
import Mathlib.Logic.Relation

/-!
# Depth-first search with two colours

The search keeps the nodes of the current path and the nodes it has finished. It reports a node that
it meets again on its path. A search that reports nothing has finished every node after all that it
leads to (`Ordered`); a graph in which every edge goes down in some rank has nothing to report. The
depth of the recursion is bounded, and a search that would go deeper has no result: how deep it goes
is said of the graph alone by `Nests`.
-/

namespace DepthFirst

variable {α β : Type*}

/-- The state of a search. A node is told by its key. -/
structure Search (α β : Type*) where
  visiting : List α
  visited : List α
  cycles : List β

/-- Visits one node after the other. -/
def visitAll (visit : β → Search α β → Option (Search α β)) :
    List β → Search α β → Option (Search α β)
  | [], s => some s
  | node :: nodes, s => (visit node s).bind (visitAll visit nodes)

/-- What every visit keeps, a whole list of visits keeps. -/
theorem visitAll_keeps {f : β → Search α β → Option (Search α β)} {nodes : List β}
    {s s' : Search α β} {R : Search α β → Search α β → Prop} (hrefl : ∀ s, R s s)
    (htrans : ∀ {a b c}, R a b → R b c → R a c)
    (hstep : ∀ node ∈ nodes, ∀ s s', f node s = some s' → R s s')
    (h : visitAll f nodes s = some s') : R s s' := by
  induction nodes generalizing s with
  | nil => exact Option.some.inj h ▸ hrefl s
  | cons node nodes ih =>
    obtain ⟨mid, hmid, hrest⟩ := Option.bind_eq_some_iff.1 h
    exact htrans (hstep node (.head _) _ _ hmid) (ih (fun n hn => hstep n (.tail _ hn)) hrest)

section
variable [DecidableEq α] (key : β → α) (next : α → List β)

/-- Visits a node and what it leads to. -/
def visit : Nat → β → Search α β → Option (Search α β)
  | 0, _, _ => none
  | depth + 1, node, s =>
    if key node ∈ s.visiting then some { s with cycles := s.cycles ++ [node] }
    else if key node ∈ s.visited then some s
    else
      let inside := { s with visiting := key node :: s.visiting }
      (visitAll (visit depth) (next (key node)) inside).map fun s =>
        { s with visiting := s.visiting.erase (key node), visited := s.visited ++ [key node] }

end

/-- Each node comes once, and after all that it leads to. -/
inductive Ordered (key : β → α) (next : α → List β) : List α → Prop
  | nil : Ordered key next []
  | concat {order : List α} {a : α} : Ordered key next order → a ∉ order →
      (∀ d ∈ next a, key d ∈ order) → Ordered key next (order ++ [a])

section
variable {key : β → α} {next : α → List β}

/-- The finished nodes are ordered, and none of them is on the path. -/
structure Good (key : β → α) (next : α → List β) (s : Search α β) : Prop where
  ordered : Ordered key next s.visited
  apart : ∀ a ∈ s.visiting, a ∉ s.visited

/-- What a search without reports has done after some nodes. -/
structure Finished (key : β → α) (next : α → List β) (nodes : List β) (s s' : Search α β) : Prop where
  good : Good key next s'
  path : s'.visiting = s.visiting
  kept : s.visited ⊆ s'.visited
  finished : ∀ node ∈ nodes, key node ∈ s'.visited

/-- Searching one node after the others. -/
theorem Finished.cons {node : β} {nodes : List β} {s mid s' : Search α β}
    (h : Finished key next [node] s mid) (hrest : Finished key next nodes mid s') :
    Finished key next (node :: nodes) s s' where
  good := hrest.good
  path := hrest.path.trans h.path
  kept := List.Subset.trans h.kept hrest.kept
  finished := by
    intro n hn
    rcases List.mem_cons.1 hn with rfl | hn
    · exact hrest.kept (h.finished _ (.head _))
    · exact hrest.finished n hn

/-- What no visit of a list changes, the list does not change. -/
theorem visitAll_of_rank {f : β → Search α β → Option (Search α β)} {nodes : List β}
    {s s' : Search α β} {p : List α}
    (hstep : ∀ node ∈ nodes, ∀ s₁ s₂, f node s₁ = some s₂ → s₁.visiting = p →
      s₂.cycles = s₁.cycles ∧ s₂.visiting = s₁.visiting)
    (h : visitAll f nodes s = some s') (hs : s.visiting = p) :
    s'.cycles = s.cycles ∧ s'.visiting = p := by
  refine visitAll_keeps (R := fun s₁ s₂ => s₁.visiting = p →
    s₂.cycles = s₁.cycles ∧ s₂.visiting = p) (fun _ h => ⟨rfl, h⟩) (fun h h' hs => ?_)
    (fun d hd s₁ s₂ hvisit hs => ?_) h hs
  · have hlast := h' (h hs).2
    exact ⟨hlast.1.trans (h hs).1, hlast.2⟩
  · have hvisit := hstep d hd s₁ s₂ hvisit hs
    exact ⟨hvisit.1, hvisit.2.trans hs⟩

end

/-! ## What can be reached -/

/-- The nodes that a search does not enter. -/
def Search.closed (s : Search α β) : Set α := {a | a ∈ s.visiting ∨ a ∈ s.visited}

/-- What is closed is on the path or finished. -/
theorem Search.mem_closed {s : Search α β} {a : α} :
    a ∈ s.closed ↔ a ∈ s.visiting ∨ a ∈ s.visited := Iff.rfl

/-- Entering a node closes it. -/
theorem closed_enter {s : Search α β} {a : α} :
    Search.closed { s with visiting := a :: s.visiting } = insert a s.closed := by
  ext b
  simp only [Search.mem_closed, Set.mem_insert_iff, List.mem_cons, or_assoc]

section
variable (key : β → α) (next : α → List β)

/-- `b` can be reached from `a` through nodes that are not closed. -/
def Reaches (closed : Set α) (a b : α) : Prop :=
  a ∉ closed ∧ Relation.ReflTransGen (fun x y => y ∉ closed ∧ ∃ d ∈ next x, key d = y) a b

/-- So many visits are nested in each other from these nodes on, when closed nodes are not entered:
the first node is visited; what it leads to is visited inside; or the visits begin at a later node,
when all that can be reached from the first is closed. -/
inductive Nests : Set α → List β → Nat → Prop
  | visit {closed : Set α} {node : β} {nodes : List β} : Nests closed (node :: nodes) 1
  | inside {closed : Set α} {node : β} {nodes : List β} {n : Nat} : key node ∉ closed →
      Nests (insert (key node) closed) (next (key node)) n → Nests closed (node :: nodes) (n + 1)
  | skip {closed : Set α} {node : β} {nodes : List β} {n : Nat} :
      Nests (closed ∪ {b | Reaches key next closed (key node) b}) nodes n →
        Nests closed (node :: nodes) n

end

section
variable {key : β → α} {next : α → List β} {closed : Set α} {a b c : α}

/-- What can be reached leads to what can be reached. -/
theorem Reaches.step (h : Reaches key next closed a b) {d : β} (hd : d ∈ next b)
    (hopen : key d ∉ closed) : Reaches key next closed a (key d) :=
  ⟨h.1, h.2.tail ⟨hopen, d, hd, rfl⟩⟩

/-- Fewer closed nodes leave more to reach. -/
theorem Reaches.mono {closed' : Set α} (hsub : closed ⊆ closed')
    (h : Reaches key next closed' a b) : Reaches key next closed a b :=
  ⟨fun ha => h.1 (hsub ha),
    Relation.ReflTransGen.mono (fun _ _ hstep => ⟨fun hclosed => hstep.1 (hsub hclosed), hstep.2⟩)
      _ _ h.2⟩

/-- What can be reached from a node that is entered: the node, and what can be reached from what it
leads to without coming back to it. -/
theorem reaches_iff (ha : a ∉ closed) :
    Reaches key next closed a b ↔
      b = a ∨ ∃ d ∈ next a, Reaches key next (insert a closed) (key d) b := by
  constructor
  · rintro ⟨-, hpath⟩
    induction hpath with
    | refl => exact .inl rfl
    | @tail x y _ hstep ih =>
      obtain ⟨hopen, d, hd, rfl⟩ := hstep
      by_cases hback : key d = a
      · exact .inl hback
      have hopen' : key d ∉ insert a closed := fun h => h.elim hback hopen
      rcases ih with rfl | ⟨first, hfirst, hreached⟩
      · exact .inr ⟨d, hd, hopen', .refl⟩
      · exact .inr ⟨first, hfirst, hreached.step hd hopen'⟩
  · rintro (rfl | ⟨d, hd, hreached⟩)
    · exact ⟨ha, .refl⟩
    · have hreached := hreached.mono (Set.subset_insert a closed)
      exact ⟨ha, .head ⟨hreached.1, d, hd, rfl⟩ hreached.2⟩

/-- What can be reached from `c` can be reached when all is closed that `a` reaches, unless `a`
reaches it. -/
theorem Reaches.or (h : Reaches key next closed c b) :
    Reaches key next closed a b ∨
      Reaches key next (closed ∪ {b | Reaches key next closed a b}) c b := by
  obtain ⟨hc, hpath⟩ := h
  induction hpath with
  | refl =>
    by_cases hac : Reaches key next closed a c
    · exact .inl hac
    · exact .inr ⟨fun h => h.elim hc hac, .refl⟩
  | @tail x y _ hstep ih =>
    obtain ⟨hopen, d, hd, rfl⟩ := hstep
    by_cases had : Reaches key next closed a (key d)
    · exact .inl had
    rcases ih with hax | hcx
    · exact .inl (hax.step hd hopen)
    · exact .inr (hcx.step hd fun h => h.elim hopen had)

/-- The visits that begin at the first node, and those that begin at a later one. -/
theorem nests_cons_iff {node : β} {nodes : List β} {n : Nat} :
    Nests key next closed (node :: nodes) n ↔ Nests key next closed [node] n ∨
      Nests key next (closed ∪ {b | Reaches key next closed (key node) b}) nodes n := by
  constructor
  · intro h
    cases h with
    | visit => exact .inl .visit
    | inside hopen h => exact .inl (.inside hopen h)
    | skip h => exact .inr h
  · rintro (h | h)
    · cases h with
      | visit => exact .visit
      | inside hopen h => exact .inside hopen h
      | skip h => cases h
    · exact .skip h

/-- No more visits are nested than there are open nodes that lead on, and one more. -/
theorem Nests.le {inner : Finset α} (hinner : ∀ a, next a ≠ [] → a ∈ inner) {nodes : List β}
    {n : Nat} (h : Nests key next closed nodes n) :
    ∃ entered ⊆ inner, (∀ a ∈ entered, a ∉ closed) ∧ n ≤ entered.card + 1 := by
  classical
  induction h with
  | visit => exact ⟨∅, Finset.empty_subset _, nofun, Nat.le_refl _⟩
  | @inside closed node nodes n hopen h ih =>
    obtain ⟨entered, hsub, hentered, hle⟩ := ih
    have hnode : key node ∉ entered := fun hmem => hentered _ hmem (Set.mem_insert _ _)
    have hleads : key node ∈ inner := hinner _ fun hnil => by rw [hnil] at h; cases h
    refine ⟨insert (key node) entered, Finset.insert_subset hleads hsub, ?_, ?_⟩
    · intro a ha hclosed
      rcases Finset.mem_insert.1 ha with rfl | ha
      · exact hopen hclosed
      · exact hentered a ha (Set.mem_insert_of_mem _ hclosed)
    · rw [Finset.card_insert_of_notMem hnode]
      omega
  | skip h ih =>
    obtain ⟨entered, hsub, hentered, hle⟩ := ih
    exact ⟨entered, hsub, fun a ha hclosed => hentered a ha (.inl hclosed), hle⟩

/-- What every visit of a list closes, the list closes. -/
theorem closed_visitAll {f : β → Search α β → Option (Search α β)} {nodes : List β}
    {s s' : Search α β}
    (hstep : ∀ node s s', f node s = some s' →
      s'.closed = s.closed ∪ {b | Reaches key next s.closed (key node) b})
    (h : visitAll f nodes s = some s') :
    s'.closed = s.closed ∪ {b | ∃ node ∈ nodes, Reaches key next s.closed (key node) b} := by
  induction nodes generalizing s with
  | nil =>
    obtain rfl := Option.some.inj h
    simp
  | cons node nodes ih =>
    obtain ⟨mid, hmid, hrest⟩ := Option.bind_eq_some_iff.1 h
    rw [ih hrest, hstep node s mid hmid]
    ext b
    simp only [Set.mem_union, Set.mem_ofPred_eq, List.exists_mem_cons_iff]
    constructor
    · rintro ((hb | hb) | ⟨later, hlater, hb⟩)
      · exact .inl hb
      · exact .inr (.inl hb)
      · exact .inr (.inr ⟨later, hlater, hb.mono Set.subset_union_left⟩)
    · rintro (hb | hb | ⟨later, hlater, hb⟩)
      · exact .inl (.inl hb)
      · exact .inl (.inr hb)
      · exact hb.or.imp .inr fun hb => ⟨later, hlater, hb⟩

end

/-! ## What a visit does -/

section
variable [DecidableEq α] {key : β → α} {next : α → List β}

/-- The cases of a visit. -/
theorem visit_cases {depth : Nat} {node : β} {s s' : Search α β}
    (h : visit key next (depth + 1) node s = some s') :
    (key node ∈ s.visiting ∧ s' = { s with cycles := s.cycles ++ [node] }) ∨
    (key node ∉ s.visiting ∧ key node ∈ s.visited ∧ s' = s) ∨
    (key node ∉ s.visiting ∧ key node ∉ s.visited ∧ ∃ inside,
      visitAll (visit key next depth) (next (key node))
        { s with visiting := key node :: s.visiting } = some inside ∧
      s' = { inside with
        visiting := inside.visiting.erase (key node), visited := inside.visited ++ [key node] }) := by
  rw [visit] at h
  split at h
  · next hvisiting => exact .inl ⟨hvisiting, (Option.some.inj h).symm⟩
  split at h
  · next hvisiting hvisited => exact .inr (.inl ⟨hvisiting, hvisited, (Option.some.inj h).symm⟩)
  · next hvisiting hvisited =>
    obtain ⟨inside, hinside, heq⟩ := Option.map_eq_some_iff.1 h
    exact .inr (.inr ⟨hvisiting, hvisited, inside, hinside, heq.symm⟩)

/-- Reports are only added. -/
theorem visit_cycles {depth : Nat} {node : β} {s s' : Search α β}
    (h : visit key next depth node s = some s') : s.cycles <+: s'.cycles := by
  induction depth generalizing node s s' with
  | zero => cases h
  | succ depth ih =>
    rcases visit_cases h with ⟨-, rfl⟩ | ⟨-, -, rfl⟩ | ⟨-, -, inside, hinside, rfl⟩
    · exact List.prefix_append _ _
    · exact List.prefix_rfl
    · have hkept := visitAll_keeps (R := fun s s' => s.cycles <+: s'.cycles)
        (fun _ => List.prefix_rfl) List.IsPrefix.trans (fun _ _ _ _ h => ih h) hinside
      exact hkept

/-- A search forgets no report. -/
theorem visitAll_cycles {depth : Nat} {nodes : List β} {s s' : Search α β}
    (h : visitAll (visit key next depth) nodes s = some s') : s.cycles <+: s'.cycles :=
  visitAll_keeps (R := fun s s' => s.cycles <+: s'.cycles) (fun _ => List.prefix_rfl)
    List.IsPrefix.trans (fun _ _ _ _ h => visit_cycles h) h

/-- Without a report at the end there is none before. -/
theorem cycles_nil_of_visitAll {depth : Nat} {nodes : List β} {s s' : Search α β}
    (h : visitAll (visit key next depth) nodes s = some s') (hnone : s'.cycles = []) :
    s.cycles = [] :=
  List.prefix_nil.1 (hnone ▸ visitAll_cycles h)

/-- A visit leaves the path as it was. -/
theorem visit_visiting {depth : Nat} {node : β} {s s' : Search α β}
    (h : visit key next depth node s = some s') : s'.visiting = s.visiting := by
  induction depth generalizing node s s' with
  | zero => cases h
  | succ depth ih =>
    rcases visit_cases h with ⟨-, rfl⟩ | ⟨-, -, rfl⟩ | ⟨-, -, inside, hinside, rfl⟩
    · rfl
    · rfl
    · have hkept := visitAll_keeps (R := fun s s' => s'.visiting = s.visiting)
        (fun _ => rfl) (fun h h' => h'.trans h) (fun _ _ _ _ h => ih h) hinside
      simp only [hkept]
      exact List.erase_cons_head _ _

/-! ## How deep a search goes -/

/-- **A visit closes what can be reached from the node**, and nothing else. -/
theorem closed_visit {depth : Nat} {node : β} {s s' : Search α β}
    (h : visit key next depth node s = some s') :
    s'.closed = s.closed ∪ {b | Reaches key next s.closed (key node) b} := by
  induction depth generalizing node s s' with
  | zero => cases h
  | succ depth ih =>
    have hclosed (hnode : key node ∈ s.closed) :
        s.closed = s.closed ∪ {b | Reaches key next s.closed (key node) b} :=
      (Set.union_eq_self_of_subset_right fun b hb => absurd hnode hb.1).symm
    rcases visit_cases h with ⟨hvisiting, rfl⟩ | ⟨-, hvisited, rfl⟩ |
      ⟨hvisiting, hvisited, inside, hinside, rfl⟩
    · exact hclosed (.inl hvisiting)
    · exact hclosed (.inr hvisited)
    · have hopen : key node ∉ s.closed := fun h => h.elim hvisiting hvisited
      have hpath := visitAll_keeps (R := fun s s' => s'.visiting = s.visiting)
        (fun _ => rfl) (fun h h' => h'.trans h) (fun _ _ _ _ h => visit_visiting h) hinside
      have hdone := closed_visitAll (fun _ _ _ h => ih h) hinside
      ext b
      have hb := Set.ext_iff.1 hdone b
      rw [closed_enter] at hb
      simp only [Search.mem_closed, hpath, List.erase_cons_head, Set.mem_ofPred_eq, List.mem_append,
        List.mem_cons, List.not_mem_nil, or_false, Set.mem_union, Set.mem_insert_iff] at hb ⊢
      rw [reaches_iff hopen]
      -- the node has gone from the path to the finished nodes
      rw [← or_assoc, or_comm (b := b = key node), ← or_assoc, hb,
        or_comm (a := b = key node), or_assoc]

/-- The loop over nodes returns where no more visits are nested than may be. -/
theorem visitAll_isSome_iff {depth : Nat} {nodes : List β} {s : Search α β}
    (hvisit : ∀ node s, (visit key next depth node s).isSome = true ↔
      ∀ n, Nests key next (Search.closed s) [node] n → n ≤ depth) :
    (visitAll (visit key next depth) nodes s).isSome = true ↔
      ∀ n, Nests key next s.closed nodes n → n ≤ depth := by
  induction nodes generalizing s with
  | nil => exact iff_of_true rfl fun n h => by cases h
  | cons node nodes ih =>
    have hsplit : (∀ n, Nests key next s.closed (node :: nodes) n → n ≤ depth) ↔
        (∀ n, Nests key next s.closed [node] n → n ≤ depth) ∧
          ∀ n, Nests key next (s.closed ∪ {b | Reaches key next s.closed (key node) b}) nodes n →
            n ≤ depth := by
      rw [← forall_and]
      exact forall_congr' fun n => by rw [nests_cons_iff, or_imp]
    rw [hsplit, ← hvisit node s, visitAll]
    cases hfirst : visit key next depth node s with
    | none => exact iff_of_false Bool.false_ne_true fun h => Bool.false_ne_true h.1
    | some mid =>
      rw [← closed_visit hfirst, Option.bind_some, ih]
      exact (and_iff_right rfl).symm

/-- **How deep a visit goes**: it has a result when no more visits are nested than may be. -/
theorem visit_isSome_iff {depth : Nat} {node : β} {s : Search α β} :
    (visit key next depth node s).isSome = true ↔
      ∀ n, Nests key next s.closed [node] n → n ≤ depth := by
  induction depth generalizing node s with
  | zero => exact iff_of_false Bool.false_ne_true fun h => Nat.not_succ_le_zero 0 (h 1 .visit)
  | succ depth ih =>
    by_cases hclosed : key node ∈ s.closed
    · have hsome : (visit key next (depth + 1) node s).isSome = true := by
        rw [visit]
        split
        · rfl
        next hvisiting => rw [if_pos (hclosed.resolve_left hvisiting), Option.isSome_some]
      refine iff_of_true hsome fun n h => ?_
      cases h with
      | visit => exact Nat.succ_le_succ (Nat.zero_le depth)
      | inside hopen h => exact absurd hclosed hopen
      | skip h => cases h
    · rw [visit, if_neg fun h => hclosed (.inl h), if_neg fun h => hclosed (.inr h),
        Option.isSome_map, visitAll_isSome_iff fun _ _ => ih, closed_enter]
      constructor
      · intro hinside n h
        cases h with
        | visit => exact Nat.succ_le_succ (Nat.zero_le depth)
        | inside hopen h => exact Nat.succ_le_succ (hinside _ h)
        | skip h => cases h
      · exact fun hall n h => Nat.le_of_succ_le_succ (hall _ (.inside hclosed h))

/-- **How deep a search goes**, from the nodes of a list. -/
theorem search_isSome_iff {depth : Nat} {nodes : List β} :
    (visitAll (visit key next depth) nodes ⟨[], [], []⟩).isSome = true ↔
      ∀ n, Nests key next ∅ nodes n → n ≤ depth := by
  have hclosed : (⟨[], [], []⟩ : Search α β).closed = ∅ := by
    ext a
    simp [Search.mem_closed]
  rw [visitAll_isSome_iff fun _ _ => visit_isSome_iff, hclosed]

/-! ## A search without reports -/

/-- The loop over nodes finishes them all, where it reports nothing. -/
theorem visitAll_finished {depth : Nat}
    (hvisit : ∀ {node : β} {s s' : Search α β}, Good key next s →
      visit key next depth node s = some s' → s'.cycles = [] → Finished key next [node] s s')
    {nodes : List β} {s s' : Search α β} (hs : Good key next s)
    (h : visitAll (visit key next depth) nodes s = some s') (hnone : s'.cycles = []) :
    Finished key next nodes s s' := by
  induction nodes generalizing s with
  | nil =>
    obtain rfl := Option.some.inj h
    exact ⟨hs, rfl, List.Subset.refl _, nofun⟩
  | cons node nodes ih =>
    obtain ⟨mid, hmid, hrest⟩ := Option.bind_eq_some_iff.1 h
    have hfirst := hvisit hs hmid (cycles_nil_of_visitAll hrest hnone)
    exact hfirst.cons (ih hfirst.good hrest)

/-- A visit that reports nothing finishes its node. -/
theorem visit_finished {depth : Nat} {node : β} {s s' : Search α β} (hs : Good key next s)
    (h : visit key next depth node s = some s') (hnone : s'.cycles = []) :
    Finished key next [node] s s' := by
  induction depth generalizing node s s' with
  | zero => cases h
  | succ depth ih =>
    rcases visit_cases h with ⟨-, rfl⟩ | ⟨-, hvisited, rfl⟩ | ⟨hvisiting, hvisited, inside, hinside, rfl⟩
    · exact absurd hnone (by simp)
    · exact ⟨hs, rfl, List.Subset.refl _, by simpa using hvisited⟩
    · have hentered : Good key next { s with visiting := key node :: s.visiting } := by
        refine ⟨hs.ordered, fun a ha => ?_⟩
        rcases List.mem_cons.1 ha with rfl | ha
        · exact hvisited
        · exact hs.apart a ha
      have hdone := visitAll_finished ih hentered hinside hnone
      have hself : key node ∉ inside.visited :=
        hdone.good.apart _ (hdone.path ▸ List.mem_cons_self)
      have hpath : inside.visiting.erase (key node) = s.visiting := by
        rw [hdone.path]
        exact List.erase_cons_head _ _
      refine ⟨⟨hdone.good.ordered.concat hself hdone.finished, fun a ha => ?_⟩, hpath, ?_, ?_⟩
      · rw [hpath] at ha
        have hin := hdone.good.apart a (hdone.path ▸ List.mem_cons_of_mem _ ha)
        simp only [List.mem_append, List.mem_singleton, not_or]
        exact ⟨hin, fun he => hvisiting (he ▸ ha)⟩
      · exact List.Subset.trans hdone.kept (List.subset_append_left _ _)
      · simp

/-- **A search that reports nothing orders the nodes.** -/
theorem ordered_of_visitAll {depth : Nat} {nodes : List β} {s : Search α β}
    (h : visitAll (visit key next depth) nodes ⟨[], [], []⟩ = some s) (hnone : s.cycles = []) :
    Ordered key next s.visited ∧ ∀ node ∈ nodes, key node ∈ s.visited := by
  have hdone := visitAll_finished visit_finished ⟨.nil, nofun⟩ h hnone
  exact ⟨hdone.good.ordered, hdone.finished⟩

/-! ## A graph without cycles -/

/-- Where every edge goes down in rank, a visit from below the path reports nothing. -/
theorem visit_of_rank {rank : α → Nat} (hrank : ∀ a, ∀ d ∈ next a, rank (key d) < rank a)
    {depth : Nat} {node : β} {s s' : Search α β} (h : visit key next depth node s = some s')
    (hpath : ∀ a ∈ s.visiting, rank (key node) < rank a) :
    s'.cycles = s.cycles ∧ s'.visiting = s.visiting := by
  induction depth generalizing node s s' with
  | zero => cases h
  | succ depth ih =>
    rcases visit_cases h with ⟨hvisiting, -⟩ | ⟨-, -, rfl⟩ | ⟨-, -, inside, hinside, rfl⟩
    · exact absurd (hpath _ hvisiting) (Nat.lt_irrefl _)
    · exact ⟨rfl, rfl⟩
    · have hbelow : ∀ a ∈ key node :: s.visiting, rank (key node) ≤ rank a := by
        intro a ha
        rcases List.mem_cons.1 ha with rfl | ha
        · exact Nat.le_refl _
        · exact Nat.le_of_lt (hpath a ha)
      have hdone := visitAll_of_rank (p := key node :: s.visiting) (fun d hd s₁ s₂ hstep hs =>
        ih hstep fun a ha => Nat.lt_of_lt_of_le (hrank _ d hd) (hbelow a (hs ▸ ha))) hinside rfl
      refine ⟨hdone.1, ?_⟩
      rw [hdone.2]
      exact List.erase_cons_head _ _

/-- **A graph with a rank has no cycle to report.** -/
theorem cycles_nil_of_rank (rank : α → Nat) (hrank : ∀ a, ∀ d ∈ next a, rank (key d) < rank a)
    {depth : Nat} {nodes : List β} {s : Search α β}
    (h : visitAll (visit key next depth) nodes ⟨[], [], []⟩ = some s) : s.cycles = [] := by
  refine (visitAll_of_rank (fun d _ s₁ s₂ hstep hs => ?_) h rfl).1
  exact visit_of_rank hrank hstep (by simp [hs])

/-- In an ordered list, what a node leads to comes before it. -/
theorem Ordered.idxOf_lt {order : List α} (h : Ordered key next order) {a : α} (ha : a ∈ order) :
    ∀ d ∈ next a, order.idxOf (key d) < order.idxOf a := by
  induction h with
  | nil => cases ha
  | @concat order b horder hnot hnext ih =>
    intro d hd
    by_cases hmem : a ∈ order
    · have hlt := ih hmem d hd
      have hdmem : key d ∈ order := List.idxOf_lt_length_iff.1
        (Nat.lt_trans hlt (List.idxOf_lt_length_iff.2 hmem))
      rw [List.idxOf_append_of_mem hmem, List.idxOf_append_of_mem hdmem]
      exact hlt
    · obtain rfl : a = b := by simpa [hmem] using ha
      have hdmem := hnext d hd
      rw [List.idxOf_append_of_mem hdmem, List.idxOf_append_of_notMem hmem]
      exact Nat.lt_of_lt_of_le (List.idxOf_lt_length_iff.2 hdmem) (Nat.le_add_right _ _)

end

end DepthFirst
