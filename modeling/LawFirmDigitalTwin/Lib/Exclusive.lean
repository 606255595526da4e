import LawFirmDigitalTwin.Lib.Run

/-!
# Transactions under one exclusive lock

Clients share a store and change it only by transactions under one lock. A client asks for the lock
and waits; the lock is granted to one waiting client at a time, in any order; the holder's
transaction reads the store, ends with a result and a new store, and releases the lock. A waiting
client may give up, and a holder may die before the end of its transaction, which leaves the store
as it was. `serial` reduces an interleaving to the sequence of the transactions that finished.
-/

namespace Exclusive

variable {ι τ ρ σ : Type*}

/-- A transaction that has ended. -/
structure Finished (ι τ ρ : Type*) where
  client : ι
  task : τ
  result : ρ

/-- The store, the clients that wait for the lock, its holder, and what has finished, in order. -/
structure Shared (ι τ ρ σ : Type*) where
  store : σ
  waiting : List (ι × τ)
  holder : Option (ι × τ)
  finished : List (Finished ι τ ρ)

/-- Before any client came. -/
def Shared.initial (s : σ) : Shared ι τ ρ σ := ⟨s, [], none, []⟩

/-- What may happen next; `turn` is a place among the waiting clients. -/
inductive Action (ι τ : Type*)
  | request (client : ι) (task : τ)
  | acquire (turn : Nat)
  | giveUp (turn : Nat)
  | finish
  | crash

section
variable (body : τ → σ → ρ × σ)

/-- One action. An `acquire` while the lock is held has no effect. -/
def step (s : Shared ι τ ρ σ) : Action ι τ → Shared ι τ ρ σ
  | .request client task => { s with waiting := s.waiting ++ [(client, task)] }
  | .acquire turn =>
    match s.holder, s.waiting[turn]? with
    | none, some w => { s with holder := some w, waiting := s.waiting.eraseIdx turn }
    | _, _ => s
  | .giveUp turn => { s with waiting := s.waiting.eraseIdx turn }
  | .finish =>
    match s.holder with
    | none => s
    | some (client, task) =>
      let (result, store) := body task s.store
      { s with store, holder := none, finished := s.finished ++ [⟨client, task, result⟩] }
  | .crash => { s with holder := none }

/-- What a finished transaction did to the store. -/
def effect (s : σ) (e : Finished ι τ ρ) : σ := (body e.task s).2

/-- A finished transaction has the result that its task has on this store. -/
def Genuine (s : σ) (e : Finished ι τ ρ) : Prop := e.result = (body e.task s).1

/-- An action ends a transaction, or it changes neither the store nor what has finished. -/
theorem step_cases (s : Shared ι τ ρ σ) (a : Action ι τ) :
    (∃ e, Genuine body s.store e ∧ (step body s a).store = effect body s.store e ∧
        (step body s a).finished = s.finished ++ [e]) ∨
      (step body s a).store = s.store ∧ (step body s a).finished = s.finished := by
  cases a with
  | request client task => exact .inr ⟨rfl, rfl⟩
  | acquire turn =>
    simp only [step]
    split <;> exact .inr ⟨rfl, rfl⟩
  | giveUp turn => exact .inr ⟨rfl, rfl⟩
  | finish =>
    simp only [step]
    split
    · exact .inr ⟨rfl, rfl⟩
    · next client task hheld =>
      exact .inl ⟨⟨client, task, (body task s.store).1⟩, rfl, rfl, rfl⟩
  | crash => exact .inr ⟨rfl, rfl⟩

/-- **Serialisability.** After any interleaving, the store and the results are those of the finished
transactions run one after the other. -/
theorem serial (s : σ) (actions : List (Action ι τ)) :
    Machine.AllSteps (effect body) (Genuine body) s
        (Machine.run (step body) (.initial s) actions).finished ∧
      Machine.run (effect body) s (Machine.run (step body) (.initial s) actions).finished =
        (Machine.run (step body) (.initial s) actions).store := by
  refine Machine.run_invariant
    (I := fun S : Shared ι τ ρ σ => Machine.AllSteps (effect body) (Genuine body) s S.finished ∧
      Machine.run (effect body) s S.finished = S.store)
    ?_ (s := .initial s) ⟨Machine.allSteps_nil s, rfl⟩ actions
  rintro S a ⟨hall, hrun⟩
  rcases step_cases body S a with ⟨e, hgen, hstore, hfin⟩ | ⟨hstore, hfin⟩
  · rw [hfin, hstore, Machine.allSteps_append, Machine.run_concat, hrun]
    exact ⟨⟨hall, hgen, trivial⟩, rfl⟩
  · rw [hfin, hstore]
    exact ⟨hall, hrun⟩

/-- What an action finished has the result of its task on the store, and its effect. -/
theorem finished_concat {s : σ} {before : List (Action ι τ)} {a : Action ι τ} {e : Finished ι τ ρ}
    (h : (Machine.run (step body) (.initial s) (before ++ [a])).finished =
      (Machine.run (step body) (.initial s) before).finished ++ [e]) :
    Genuine body (Machine.run (step body) (.initial s) before).store e ∧
      (Machine.run (step body) (.initial s) (before ++ [a])).store =
        effect body (Machine.run (step body) (.initial s) before).store e := by
  rw [Machine.run_concat] at h ⊢
  rcases step_cases body (Machine.run (step body) (.initial s) before) a with
    ⟨e', hgen, hstore, hfin⟩ | ⟨-, hfin⟩
  · rw [hfin] at h
    obtain rfl : e' = e := List.singleton_inj.1 (List.append_cancel_left h)
    exact ⟨hgen, hstore⟩
  · rw [hfin] at h
    exact absurd (congrArg List.length h) (by simp)

section
variable {body} {α : Type*} {R : σ → List α → Prop} {written : τ → ρ → Option α}

/-- Where a transaction appends to the history what it wrote, finished transactions append what each
of them wrote. -/
theorem history_log
    (hbody : ∀ s h task, R s h → R (body task s).2 (h ++ (written task (body task s).1).toList))
    {s : σ} {h : List α} (hs : R s h) {log : List (Finished ι τ ρ)}
    (hlog : Machine.AllSteps (effect body) (Genuine body) s log) :
    R (Machine.run (effect body) s log)
      (h ++ log.filterMap fun e => written e.task e.result) := by
  induction log generalizing s h with
  | nil => simpa using hs
  | cons e log ih =>
    obtain ⟨he, hrest⟩ := hlog
    have hstep := ih (hbody s h e.task hs) hrest
    rw [← he, List.append_assoc] at hstep
    have hcons : ((e :: log).filterMap fun e => written e.task e.result) =
        (written e.task e.result).toList ++ log.filterMap fun e => written e.task e.result := by
      rw [List.filterMap_cons]
      cases written e.task e.result <;> rfl
    rw [hcons]
    exact hstep

/-- **The history rule.** After any interleaving the store holds what the finished transactions
wrote, in the order in which they finished. -/
theorem history_run
    (hbody : ∀ s h task, R s h → R (body task s).2 (h ++ (written task (body task s).1).toList))
    {s : σ} (hs : R s []) (actions : List (Action ι τ)) :
    R (Machine.run (step body) (.initial s) actions).store
      ((Machine.run (step body) (.initial s) actions).finished.filterMap fun e =>
        written e.task e.result) := by
  obtain ⟨hall, hrun⟩ := serial body s actions
  rw [← hrun]
  exact history_log hbody hs hall

end

end

end Exclusive
