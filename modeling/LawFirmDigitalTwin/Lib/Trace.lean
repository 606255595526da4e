import Mathlib.Data.List.Basic

/-!
# Precedence on traces

A trace is a list of events, oldest first. `Precedes A B` says that every event with property `B`
has an earlier one with property `A`; it is transitive, so a chain of stages in which each precedes
the next is ordered pairwise. `Pending A B` says that some `A` was not answered by a later `B`, and
`Answered A B` that the last `A` was. Each has a rule for a trace that grows by one event.
-/

namespace Trace

variable {ε : Type*} {A B C : ε → Prop} {l : List ε} {e : ε}

/-- Every `B` has an earlier `A`. -/
def Precedes (l : List ε) (A B : ε → Prop) : Prop :=
  ∀ pre e post, l = pre ++ e :: post → B e → ∃ a ∈ pre, A a

/-- A split of a trace that grew by one event ends at that event, or splits the old trace. -/
theorem split_concat {pre post : List ε} {x : ε} (h : l ++ [e] = pre ++ x :: post) :
    (l = pre ∧ e = x ∧ post = []) ∨ ∃ post', post = post' ++ [e] ∧ l = pre ++ x :: post' := by
  rcases List.eq_nil_or_concat post with rfl | ⟨post', y, rfl⟩
  · obtain ⟨hl, he⟩ := List.append_inj' h rfl
    cases he
    exact .inl ⟨hl, rfl, rfl⟩
  · rw [List.concat_eq_append, ← List.cons_append, ← List.append_assoc] at h
    obtain ⟨hl, he⟩ := List.append_inj' h rfl
    cases he
    exact .inr ⟨post', List.concat_eq_append .., hl⟩

/-- An empty trace has no effect without a cause. -/
theorem precedes_nil : Precedes ([] : List ε) A B := by
  intro pre e post h
  simp at h

/-- The last event needs a cause before it, and the others theirs. -/
theorem precedes_concat :
    Precedes (l ++ [e]) A B ↔ Precedes l A B ∧ (B e → ∃ a ∈ l, A a) := by
  constructor
  · intro h
    refine ⟨fun pre x post hl hB => ?_, fun hB => h l e [] rfl hB⟩
    exact h pre x (post ++ [e]) (by rw [hl, List.append_assoc]; rfl) hB
  · rintro ⟨hl, he⟩ pre x post h hB
    rcases split_concat h with ⟨rfl, rfl, rfl⟩ | ⟨post', rfl, h'⟩
    · exact he hB
    · exact hl pre x post' h' hB

/-- A first event has no cause, and may be one. -/
theorem precedes_cons : Precedes (e :: l) A B ↔ ¬ B e ∧ (A e ∨ Precedes l A B) := by
  constructor
  · intro h
    refine ⟨fun hB => ?_, or_iff_not_imp_left.2 fun hA pre x post hl hB => ?_⟩
    · obtain ⟨a, ha, -⟩ := h [] e l rfl hB
      cases ha
    · obtain ⟨a, ha, haA⟩ := h (e :: pre) x post (by rw [hl]; rfl) hB
      rcases List.mem_cons.1 ha with rfl | ha
      · exact absurd haA hA
      · exact ⟨a, ha, haA⟩
  · rintro ⟨hBe, h⟩ pre x post hl hB
    cases pre with
    | nil => cases hl; exact absurd hB hBe
    | cons y pre =>
      obtain ⟨rfl, rfl⟩ := List.cons.inj hl
      rcases h with hA | h
      · exact ⟨e, .head _, hA⟩
      · obtain ⟨a, ha, haA⟩ := h pre x post rfl hB
        exact ⟨a, List.mem_cons_of_mem _ ha, haA⟩

/-- Without a `B` there is nothing to precede. -/
theorem precedes_of_forall_not (h : ∀ e ∈ l, ¬ B e) : Precedes l A B := by
  rintro pre e post rfl hB
  exact absurd hB (h e (List.mem_append_right _ (.head _)))

/-- A trace may go on with what is no `B`. -/
theorem Precedes.append {m : List ε} (h : Precedes l A B) (hm : ∀ e ∈ m, ¬ B e) :
    Precedes (l ++ m) A B := by
  induction m generalizing l with
  | nil => rwa [List.append_nil]
  | cons e m ih =>
    rw [← List.singleton_append, ← List.append_assoc]
    exact ih (precedes_concat.2 ⟨h, fun hB => absurd hB (hm e (.head _))⟩)
      fun x hx => hm x (List.mem_cons_of_mem _ hx)

/-- Precedence is transitive. -/
theorem Precedes.trans (h : Precedes l A B) (h' : Precedes l B C) : Precedes l A C := by
  intro pre x post hl hC
  obtain ⟨b, hb, hB⟩ := h' pre x post hl hC
  obtain ⟨p, q, rfl⟩ := List.append_of_mem hb
  obtain ⟨a, ha, hA⟩ := h p b (q ++ x :: post) (by rw [hl, List.append_assoc]; rfl) hB
  exact ⟨a, List.mem_append_left _ ha, hA⟩

/-- Fewer effects need fewer causes. -/
theorem Precedes.imp (h : Precedes l A B) (hC : ∀ e, C e → B e) : Precedes l A C :=
  fun pre x post hl hCx => h pre x post hl (hC x hCx)

/-- Stages of which each precedes the next are ordered pairwise. -/
theorem pairwise_of_isChain {stages : List (ε → Prop)} (h : stages.IsChain (Precedes l)) :
    stages.Pairwise (Precedes l) := by
  have : IsTrans (ε → Prop) (Precedes l) := ⟨fun _ _ _ => Precedes.trans⟩
  exact List.isChain_iff_pairwise.1 h

/-- Some `A` has no later `B`. -/
def Pending (A B : ε → Prop) (l : List ε) : Prop :=
  ∃ pre a mid, l = pre ++ a :: mid ∧ A a ∧ ∀ b ∈ mid, ¬ B b

/-- There is an `A`, and the last one has a later `B`. -/
def Answered (A B : ε → Prop) (l : List ε) : Prop :=
  ∃ pre a mid, l = pre ++ a :: mid ∧ A a ∧ (∀ b ∈ mid, ¬ A b) ∧ ∃ b ∈ mid, B b

/-- Nothing is pending in an empty trace. -/
theorem not_pending_nil : ¬ Pending A B ([] : List ε) := by
  rintro ⟨pre, a, mid, h, -⟩
  simp at h

/-- What is pending after one more event. -/
theorem pending_concat : Pending A B (l ++ [e]) ↔ A e ∨ Pending A B l ∧ ¬ B e := by
  constructor
  · rintro ⟨pre, a, mid, h, hA, hB⟩
    rcases split_concat h with ⟨rfl, rfl, rfl⟩ | ⟨mid', rfl, h'⟩
    · exact .inl hA
    · refine .inr ⟨⟨pre, a, mid', h', hA, fun b hb => hB b ?_⟩, hB e ?_⟩ <;> simp_all
  · rintro (hA | ⟨⟨pre, a, mid, rfl, hA, hB⟩, he⟩)
    · exact ⟨l, e, [], rfl, hA, fun b hb => nomatch hb⟩
    · refine ⟨pre, a, mid ++ [e], by rw [List.append_assoc]; rfl, hA, fun b hb => ?_⟩
      rcases List.mem_append.1 hb with hb | hb
      · exact hB b hb
      · rw [List.mem_singleton.1 hb]; exact he

/-- A trace splits at the last event with a property. -/
theorem exists_last (h : ∃ a ∈ l, A a) :
    ∃ pre a mid, l = pre ++ a :: mid ∧ A a ∧ ∀ b ∈ mid, ¬ A b := by
  induction l with
  | nil => obtain ⟨a, ha, -⟩ := h; cases ha
  | cons x l ih =>
    by_cases hl : ∃ a ∈ l, A a
    · obtain ⟨pre, a, mid, rfl, hA, hmid⟩ := ih hl
      exact ⟨x :: pre, a, mid, rfl, hA, hmid⟩
    · obtain ⟨a, ha, hA⟩ := h
      rcases List.mem_cons.1 ha with rfl | ha
      · exact ⟨[], a, l, rfl, hA, fun b hb hAb => hl ⟨b, hb, hAb⟩⟩
      · exact absurd ⟨a, ha, hA⟩ hl

/-- Where an `A` occurred and none is pending, the last one is answered. -/
theorem answered_of_not_pending (h : ∃ a ∈ l, A a) (hp : ¬ Pending A B l) : Answered A B l := by
  obtain ⟨pre, a, mid, hl, hA, hmid⟩ := exists_last h
  refine ⟨pre, a, mid, hl, hA, hmid, ?_⟩
  by_contra hno
  exact hp ⟨pre, a, mid, hl, hA, fun b hb hB => hno ⟨b, hb, hB⟩⟩

/-- A trace that ends in an `A` leaves it unanswered. -/
theorem not_answered_of_getLast? (h : l.getLast? = some e) (hA : A e) : ¬ Answered A B l := by
  rintro ⟨pre, a, mid, hl, -, hmid, b, hb, -⟩
  rw [← List.dropLast_append_getLast? e h] at hl
  rcases split_concat hl with ⟨-, -, rfl⟩ | ⟨mid', rfl, -⟩
  · cases hb
  · exact hmid e (List.mem_append_right _ (.head _)) hA

end Trace
