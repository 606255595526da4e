import LawFirmDigitalTwin.Campaign.Accepted

/-!
# The order of the jobs

A manifest without errors has jobs with distinct names, whose dependencies are jobs of the manifest,
and an order in which every job comes after its dependencies: the order in which `visit` finishes
them. Where there is such an order, `visit` reports no cycle.
-/

namespace LawFirmDigitalTwin

namespace Campaign

/-- The entries of `depends_on`. -/
def dependencies (item : JsonObject) : Except PyError (List Json) :=
  (item.getD "depends_on" (.list [])).iterate

/-- The jobs can be done one after the other. -/
structure Schedulable (data : JsonObject) : Prop where
  named : ∃ ids : List String, (jobs data).map (fun item => item.getD "id" .null) = ids.map .str ∧
    ids.Nodup ∧ "" ∉ ids
  known : ∀ job ∈ jobs data, ∃ ds, dependencies job = .ok ds ∧
    ∀ d ∈ ds, ∃ job' ∈ jobs data, job'.getD "id" .null = d
  ordered : ∃ order, order.Perm (jobs data) ∧ ∀ before job after, order = before ++ job :: after →
    ∀ ds, dependencies job = .ok ds → ∀ d ∈ ds, ∃ job' ∈ before, job'.getD "id" .null = d

section
variable {B : Builtins} {item : JsonObject}

/-- The hashed dependencies of a job. -/
theorem dependenciesOf_eq_ok {deps : List (PyKey × Json)} (h : dependenciesOf B item = .ok deps) :
    ∃ ds, dependencies item = .ok ds ∧ deps.map (·.2) = ds ∧
      ∀ d ∈ deps, d.2.hashed B = .ok d.1 := by
  obtain ⟨ds, hds, hdeps⟩ := Raising.except_bind_eq_ok.1 h
  refine ⟨ds, hds, ?_⟩
  clear h hds
  induction ds generalizing deps with
  | nil =>
    cases hdeps
    exact ⟨rfl, nofun⟩
  | cons d ds ih =>
    rw [List.mapM_cons] at hdeps
    obtain ⟨e, he, hdeps⟩ := Raising.except_bind_eq_ok.1 hdeps
    obtain ⟨key, hkey, he⟩ := Raising.except_bind_eq_ok.1 he
    obtain ⟨rest, hrest, hdeps⟩ := Raising.except_bind_eq_ok.1 hdeps
    obtain rfl := Except.ok.inj he
    obtain rfl := Except.ok.inj hdeps
    obtain ⟨hmap, hhash⟩ := ih hrest
    refine ⟨by rw [List.map_cons, hmap], fun e he => ?_⟩
    rcases List.mem_cons.1 he with rfl | he
    · exact hkey
    · exact hhash e he

/-- The dependencies of a job without an error are ids. -/
theorem dependencyErrors_eq_nil {ids : List String}
    (h : dependencyErrors B (ids.map .str) item = .ok []) :
    ∃ deps, dependenciesOf B item = .ok deps ∧ ∀ d ∈ deps, ∃ s ∈ ids, d = (.str s, .str s) := by
  obtain ⟨deps, hdeps, h⟩ := Raising.except_bind_eq_ok.1 h
  refine ⟨deps, hdeps, fun d hd => ?_⟩
  obtain ⟨-, -, -, hhash⟩ := dependenciesOf_eq_ok hdeps
  have hmem : d.1 ∈ ids.map PyKey.str := by
    by_contra hnot
    have hunknown : ((deps.filter fun d => d.1 ∉ ids.map PyKey.str).eraseDupsBy
        fun d d' => d.1 = d'.1).isEmpty = false := by
      have hd : d ∈ deps.filter fun d => d.1 ∉ ids.map PyKey.str :=
        List.mem_filter.2 ⟨hd, decide_eq_true hnot⟩
      cases hfilter : deps.filter fun d => d.1 ∉ ids.map PyKey.str with
      | nil =>
        rw [hfilter] at hd
        cases hd
      | cons => rw [List.eraseDupsBy_cons, List.isEmpty_cons]
    simp only [hunknown] at h
    obtain ⟨order, -, h⟩ := Raising.except_bind_eq_ok.1 h
    cases h
  obtain ⟨s, hs, hkey⟩ := List.mem_map.1 hmem
  have hvalue := hhash d hd
  rw [← hkey, Json.hashed_eq_str] at hvalue
  exact ⟨s, hs, Prod.ext hkey.symm hvalue⟩

/-- The entries of the graph are the jobs with their dependencies. -/
theorem graphOf_eq_ok {items : List JsonObject} {graph : List (String × List (PyKey × Json))}
    (h : graphOf B items = .ok graph) :
    graph.map (·.1) = items.map (jobId B) ∧
      (∀ e ∈ graph, ∃ item ∈ items, e.1 = jobId B item ∧ dependenciesOf B item = .ok e.2) ∧
      ∀ item ∈ items, ∃ deps, dependenciesOf B item = .ok deps ∧ (jobId B item, deps) ∈ graph := by
  induction items generalizing graph with
  | nil =>
    cases h
    exact ⟨rfl, nofun, nofun⟩
  | cons item items ih =>
    rw [graphOf, List.mapM_cons] at h
    obtain ⟨e, he, h⟩ := Raising.except_bind_eq_ok.1 h
    obtain ⟨deps, hdeps, he⟩ := Raising.except_bind_eq_ok.1 he
    obtain ⟨rest, hrest, h⟩ := Raising.except_bind_eq_ok.1 h
    obtain rfl := Except.ok.inj he
    obtain rfl := Except.ok.inj h
    obtain ⟨hnames, hentries, hitems⟩ := ih hrest
    refine ⟨by rw [List.map_cons, hnames, List.map_cons], fun e he => ?_, fun i hi => ?_⟩
    · rcases List.mem_cons.1 he with rfl | he
      · exact ⟨item, .head _, rfl, hdeps⟩
      · obtain ⟨i, hi, h⟩ := hentries e he
        exact ⟨i, .tail _ hi, h⟩
    · rcases List.mem_cons.1 hi with rfl | hi
      · exact ⟨deps, hdeps, .head _⟩
      · obtain ⟨deps', hdeps', hmem⟩ := hitems i hi
        exact ⟨deps', hdeps', .tail _ hmem⟩

/-- A node leads to the dependencies of a job that has its name. -/
theorem mem_leadsTo {graph : List (String × List (PyKey × Json))} {a : PyKey} {d : PyKey × Json}
    (h : d ∈ leadsTo graph a) : ∃ s deps, a = .str s ∧ (s, deps) ∈ graph ∧ d ∈ deps := by
  cases a with
  | none | int | float => cases h
  | str s =>
    have h : d ∈ (graph.reverse.lookup s).getD [] := h
    cases hlookup : graph.reverse.lookup s with
    | none =>
      rw [hlookup] at h
      cases h
    | some deps =>
      rw [hlookup] at h
      obtain ⟨before, after, heq, -⟩ := List.lookup_eq_some_iff.1 hlookup
      refine ⟨s, deps, rfl, ?_, h⟩
      rw [← List.mem_reverse, heq]
      simp

/-- Where the names are distinct, a node leads to the dependencies of its job. -/
theorem leadsTo_of_mem {graph : List (String × List (PyKey × Json))} {s : String}
    {deps : List (PyKey × Json)} (hnodup : (graph.map (·.1)).Nodup) (h : (s, deps) ∈ graph) :
    leadsTo graph (.str s) = deps := by
  obtain ⟨before, after, rfl⟩ := List.append_of_mem h
  have hlookup : (before ++ (s, deps) :: after).reverse.lookup s = some deps := by
    rw [List.lookup_eq_some_iff]
    refine ⟨after.reverse, before.reverse, by simp, fun e he => ?_⟩
    rw [List.map_append, List.map_cons, List.nodup_append] at hnodup
    have hnot := (List.nodup_cons.1 hnodup.2.1).1
    have hname : e.1 ∈ after.map (·.1) := List.mem_map_of_mem (List.mem_reverse.1 he)
    rw [bne_iff_ne]
    rintro rfl
    exact hnot hname
  rw [leadsTo, hlookup]
  rfl

end

section
variable {B : Builtins} {depth : Nat} {data : JsonObject} {ids : List String}

/-- A job without errors has none in its dependencies. -/
theorem jobErrors_dependencies {known : List PyKey} {owner owner' : PyDict String}
    {item : JsonObject} (h : jobErrors B known owner item = .ok ([], owner')) :
    dependencyErrors B known item = .ok [] :=
  (jobErrors_parts h).1

/-- Jobs without errors have none in their dependencies. -/
theorem jobsErrors_dependencies {known : List PyKey} {owner : PyDict String}
    {items : List JsonObject} (h : jobsErrors B known owner items = .ok []) :
    ∀ item ∈ items, dependencyErrors B known item = .ok [] := by
  induction items generalizing owner with
  | nil => exact nofun
  | cons item items ih =>
    obtain ⟨⟨errors, last⟩, hjob, h⟩ := Raising.except_bind_eq_ok.1 h
    obtain ⟨rest, hrest, h⟩ := Raising.except_bind_eq_ok.1 h
    obtain ⟨rfl, rfl⟩ := List.append_eq_nil_iff.1 (Except.ok.inj h)
    intro i hi
    rcases List.mem_cons.1 hi with rfl | hi
    · exact jobErrors_dependencies hjob
    · exact ih hrest i hi

/-- The search of the graph, and what it reports. -/
theorem cycleErrors_eq_ok {errors : List String} (h : cycleErrors B depth data = .ok errors) :
    ∃ graph search, graphOf B (jobs data) = .ok graph ∧
      DepthFirst.visitAll (DepthFirst.visit Prod.fst (leadsTo graph) depth)
        ((graph.map (·.1)).eraseDups.map fun node => (PyKey.str node, Json.str node))
          ⟨[], [], []⟩ = some search ∧
      errors = search.cycles.map fun node => "dependency cycle includes " ++ node.2.text B := by
  obtain ⟨graph, hgraph, h⟩ := Raising.except_bind_eq_ok.1 h
  refine ⟨graph, ?_⟩
  simp only at h
  split at h
  · cases h
  · next search hsearch => exact ⟨search, hgraph, hsearch, (Except.ok.inj h).symm⟩

/-- The job of an id. -/
theorem exists_job_of_id (hnamed : (jobs data).map (fun item => item.getD "id" .null) =
    ids.map .str) {s : String} (hs : s ∈ ids) :
    ∃ job ∈ jobs data, job.getD "id" .null = .str s := by
  have hmem : Json.str s ∈ (jobs data).map (fun item => item.getD "id" .null) :=
    hnamed ▸ List.mem_map_of_mem hs
  obtain ⟨job, hjob, h⟩ := List.mem_map.1 hmem
  exact ⟨job, hjob, h⟩

/-- **An accepted campaign can be scheduled.** -/
theorem Accepts.schedulable (h : Accepts B depth data ids) : Schedulable data := by
  have hids := jobIds_of_named (B := B) h.named
  have hdeps (job : JsonObject) (hjob : job ∈ jobs data) :=
    dependencyErrors_eq_nil (jobsErrors_dependencies h.clean job hjob)
  obtain ⟨graph, search, hgraph, hsearch, hcycles⟩ := cycleErrors_eq_ok h.acyclic
  have hcycles : search.cycles = [] := List.map_eq_nil_iff.1 hcycles.symm
  obtain ⟨hnames, hentries, hitems⟩ := graphOf_eq_ok hgraph
  have hnodup : (graph.map (·.1)).Nodup := by
    rw [hnames, hids]
    exact h.nodup
  obtain ⟨hordered, hfinished⟩ := DepthFirst.ordered_of_visitAll hsearch hcycles
  refine ⟨⟨ids, h.named, h.nodup, h.nonempty⟩, fun job hjob => ?_, ?_⟩
  · obtain ⟨deps, hok, hmem⟩ := hdeps job hjob
    obtain ⟨ds, hds, rfl, -⟩ := dependenciesOf_eq_ok hok
    refine ⟨_, hds, fun d hd => ?_⟩
    obtain ⟨e, he, rfl⟩ := List.mem_map.1 hd
    obtain ⟨s, hs, rfl⟩ := hmem e he
    exact exists_job_of_id h.named hs
  · -- the jobs in the order in which `visit` has finished them
    let place (job : JsonObject) : Nat := search.visited.idxOf (PyKey.str (jobId B job))
    refine ⟨(jobs data).insertionSort fun a b => place a ≤ place b, List.perm_insertionSort _ _, ?_⟩
    intro before job after horder ds hds d hd
    have hsorted := List.pairwise_insertionSort (fun a b => place a ≤ place b) (jobs data)
    have hmem (i : JsonObject) : i ∈ jobs data ↔ i ∈ before ++ job :: after := by
      rw [← horder]
      exact (List.perm_insertionSort _ _).mem_iff.symm
    rw [horder, List.pairwise_append, List.pairwise_cons] at hsorted
    have hjob : job ∈ jobs data := (hmem job).2 (by simp)
    obtain ⟨deps, hok, hentry⟩ := hitems job hjob
    obtain ⟨deps', hok', hknown⟩ := hdeps job hjob
    obtain rfl := Except.ok.inj (hok.symm.trans hok')
    obtain ⟨ds', hds', rfl, -⟩ := dependenciesOf_eq_ok hok
    obtain rfl := Except.ok.inj (hds.symm.trans hds')
    obtain ⟨e, he, rfl⟩ := List.mem_map.1 hd
    obtain ⟨s, hs, rfl⟩ := hknown e he
    obtain ⟨job', hjob', hid⟩ := exists_job_of_id h.named hs
    have hvisited : PyKey.str (jobId B job) ∈ search.visited :=
      hfinished _ (List.mem_map_of_mem (List.mem_eraseDups.2 (List.mem_map_of_mem hentry)))
    have hlt : place job' < place job := by
      have hlt := hordered.idxOf_lt hvisited (.str s, .str s)
        (by rw [leadsTo_of_mem hnodup hentry]; exact he)
      rwa [← jobId_of_id (B := B) hid] at hlt
    refine ⟨job', ?_, hid⟩
    rcases List.mem_append.1 ((hmem job').1 hjob') with hbefore | hrest
    · exact hbefore
    · rcases List.mem_cons.1 hrest with rfl | hafter
      · exact absurd hlt (Nat.lt_irrefl _)
      · exact absurd (hsorted.2.1.1 job' hafter) (Nat.not_le_of_lt hlt)

/-- The place of a key in an order of the jobs. -/
def rankOf (B : Builtins) (order : List JsonObject) : PyKey → Nat
  | .str s => (order.map (jobId B)).idxOf s
  | _ => 0

/-- Where the jobs can be done one after the other, the visit reports no cycle. -/
theorem Schedulable.cycleErrors (h : Schedulable data) {errors : List String}
    (herrors : cycleErrors B depth data = .ok errors) : errors = [] := by
  obtain ⟨graph, search, hgraph, hsearch, rfl⟩ := cycleErrors_eq_ok herrors
  obtain ⟨ids, hnamed, hnodup, -⟩ := h.named
  obtain ⟨order, hperm, hafter⟩ := h.ordered
  obtain ⟨-, hentries, -⟩ := graphOf_eq_ok hgraph
  have hids := jobIds_of_named (B := B) hnamed
  have hdistinct : (order.map (jobId B)).Nodup := by
    rw [(hperm.map _).nodup_iff, hids]
    exact hnodup
  rw [List.map_eq_nil_iff]
  refine DepthFirst.cycles_nil_of_rank (rankOf B order) (fun a d hd => ?_) hsearch
  obtain ⟨s, deps, rfl, hentry, hmem⟩ := mem_leadsTo hd
  obtain ⟨job, hjob, rfl, hok⟩ := hentries _ hentry
  obtain ⟨before, after, rfl⟩ := List.append_of_mem (hperm.mem_iff.2 hjob)
  obtain ⟨ds, hds, hmap, hhash⟩ := dependenciesOf_eq_ok hok
  obtain ⟨job', hjob', hid⟩ := hafter before job after rfl ds hds d.2 (hmap ▸ List.mem_map_of_mem hmem)
  have hin : job' ∈ jobs data := hperm.mem_iff.1 (List.mem_append_left _ hjob')
  obtain ⟨s', -, hs'⟩ : ∃ s' ∈ ids, Json.str s' = job'.getD "id" .null :=
    List.mem_map.1 (hnamed ▸ List.mem_map_of_mem hin)
  have hkey : d.1 = .str s' := by
    have hd := hhash d hmem
    rw [← hid, ← hs', Json.hashed_str] at hd
    exact (Except.ok.inj hd).symm
  have hname : jobId B job' = s' := jobId_of_id hs'.symm
  rw [List.map_append, List.map_cons] at hdistinct
  have hnot : jobId B job ∉ before.map (jobId B) := fun hmem =>
    (List.nodup_append.1 hdistinct).2.2 _ hmem _ (.head _) rfl
  have hbefore : s' ∈ before.map (jobId B) := hname ▸ List.mem_map_of_mem hjob'
  rw [hkey]
  change ((before ++ job :: after).map (jobId B)).idxOf s' <
    ((before ++ job :: after).map (jobId B)).idxOf (jobId B job)
  rw [List.map_append, List.idxOf_append_of_mem hbefore, List.idxOf_append_of_notMem hnot]
  exact Nat.lt_of_lt_of_le (List.idxOf_lt_length_iff.2 hbefore) (Nat.le_add_right _ _)

/-- **Acceptance and order.** A manifest without errors has distinct named jobs, known dependencies
and an order of the jobs; where it has these, no dependency cycle is reported. -/
theorem campaign_schedulable (B : Builtins) (depth : Nat) (m : Json) :
    (validate B depth m = .ok [] → ∃ data, m = .dict data ∧ Schedulable data) ∧
      ∀ data errors, m = .dict data → Schedulable data →
        Campaign.cycleErrors B depth data = .ok errors → errors = [] := by
  refine ⟨fun h => ?_, fun data errors _ h herrors => h.cycleErrors herrors⟩
  obtain ⟨data, ids, rfl, haccepts⟩ := accepts_of_validate h
  exact ⟨data, rfl, haccepts.schedulable⟩

/-- An accepted manifest with one dependency. -/
theorem campaign_schedulable_aliased :
    ∃ data, Json.dict aliasedManifest = .dict data ∧ Schedulable data :=
  (campaign_schedulable fixtureBuiltins 100 (.dict aliasedManifest)).1 validate_aliasedManifest

end

end Campaign

end LawFirmDigitalTwin
