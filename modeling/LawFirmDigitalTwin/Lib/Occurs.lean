import Mathlib.Data.List.Infix

/-!
# Words in encoded texts

A text is encoded letter by letter. A word whose letters stand for themselves occurs in the encoded
text exactly where it occurs in the text, if no other letter's code can be confused with it:
`Plain`. A separator that is not in the word cuts the places where it can occur.
-/

namespace Occurs

variable {α β : Type*}

/-! ## Separators -/

/-- A word ends before an element that is not in it. -/
theorem prefix_append_cons {w as bs : List α} {x : α} (hx : x ∉ w) (h : w <+: as ++ x :: bs) :
    w <+: as := by
  induction as generalizing w with
  | nil =>
    cases w with
    | nil => exact List.nil_prefix
    | cons y w =>
      obtain ⟨rfl, -⟩ := List.cons_prefix_cons.1 h
      exact absurd (.head _) hx
  | cons a as ih =>
    cases w with
    | nil => exact List.nil_prefix
    | cons y w =>
      obtain ⟨rfl, hrest⟩ := List.cons_prefix_cons.1 h
      exact List.cons_prefix_cons.2 ⟨rfl, ih (fun hmem => hx (.tail _ hmem)) hrest⟩

/-- A word without the separator occurs on one side of it. -/
theorem infix_append_cons {w as bs : List α} {x : α} (hx : x ∉ w) (h : w <:+: as ++ x :: bs) :
    w <:+: as ∨ w <:+: bs := by
  induction as with
  | nil =>
    rcases List.infix_cons_iff.1 h with h | h
    · exact .inl (prefix_append_cons hx h).isInfix
    · exact .inr h
  | cons a as ih =>
    rcases List.infix_cons_iff.1 h with h | h
    · exact .inl (prefix_append_cons hx h).isInfix
    · rcases ih h with h | h
      · exact .inl (List.infix_cons h)
      · exact .inr h

/-- A word without the separator stands on one side of it. -/
theorem infix_append_cons_iff {w as bs : List α} {x : α} (hx : x ∉ w) :
    w <:+: as ++ x :: bs ↔ w <:+: as ∨ w <:+: bs := by
  refine ⟨infix_append_cons hx, ?_⟩
  rintro (h | h)
  · exact h.trans List.infix_append_left
  · exact (List.infix_cons h).trans List.infix_append_right

/-- A word without the separator occurs in a text of several parts where it occurs in one of
them. -/
theorem infix_intercalate_iff {w : List α} {x : α} (hx : x ∉ w) (hw : w ≠ [])
    {parts : List (List α)} : w <:+: [x].intercalate parts ↔ ∃ part ∈ parts, w <:+: part := by
  induction parts with
  | nil => simpa using hw
  | cons part rest ih =>
    cases rest with
    | nil => simp
    | cons next rest =>
      rw [List.intercalate_cons_cons, List.append_assoc, List.singleton_append,
        infix_append_cons_iff hx, ih]
      simp only [List.mem_cons, exists_eq_or_imp]

/-- Encoding the parts between separators that stand for themselves. -/
theorem flatMap_intercalate {f : α → List α} {x : α} (hx : f x = [x]) (parts : List (List α)) :
    ([x].intercalate parts).flatMap f = [x].intercalate (parts.map (List.flatMap f)) := by
  induction parts with
  | nil => rfl
  | cons part rest ih =>
    cases rest with
    | nil => simp
    | cons next rest =>
      rw [List.intercalate_cons_cons, List.flatMap_append, List.flatMap_append, ih,
        List.flatMap_singleton, hx, List.map_cons, List.map_cons, List.map_cons,
        List.intercalate_cons_cons]

/-- A block that does not hold the first letter of a word does not take part in it. -/
theorem infix_of_append {w as bs : List α} {x : α} (hx : x ∉ as) (h : x :: w <:+: as ++ bs) :
    x :: w <:+: bs := by
  induction as with
  | nil => exact h
  | cons a as ih =>
    rcases List.infix_cons_iff.1 h with h | h
    · obtain ⟨rfl, -⟩ := List.cons_prefix_cons.1 h
      exact absurd (.head _) hx
    · exact ih (fun hmem => hx (.tail _ hmem)) h

/-! ## Encodings -/

/-- The code of a word stands in the code of a text that holds the word. -/
theorem infix_flatMap {as cs : List α} (f : α → List β) (h : as <:+: cs) :
    as.flatMap f <:+: cs.flatMap f := by
  obtain ⟨before, after, rfl⟩ := h
  exact ⟨before.flatMap f, after.flatMap f, by simp⟩

/-- The letters of a word stand for themselves, and the code of every other letter starts with
something that is not in the word and does not hold the word's first letter. -/
def Plain (f : α → List β) (g : α → β) (as : List α) : Prop :=
  (∀ a ∈ as, f a = [g a]) ∧
    ∀ c, (f c = [g c] ∧ ∀ a ∈ as, g a = g c → a = c) ∨
      ∃ x code, f c = x :: code ∧ x ∉ as.map g ∧ ∀ a ∈ as.head?, g a ∉ f c

section
variable {f : α → List β} {g : α → β}

/-- A plain word is encoded letter by letter. -/
theorem Plain.flatMap {as : List α} (h : Plain f g as) : as.flatMap f = as.map g := by
  rw [← List.flatMap_singleton' (as.map g), List.flatMap_map]
  exact List.flatMap_congr h.1

/-- A code at the front of a code is that of a word at the front. -/
theorem prefix_of_flatMap {as cs : List α}
    (hcode : ∀ c, (f c = [g c] ∧ ∀ a ∈ as, g a = g c → a = c) ∨
      ∃ x code, f c = x :: code ∧ x ∉ as.map g)
    (h : as.map g <+: cs.flatMap f) : as <+: cs := by
  induction as generalizing cs with
  | nil => exact List.nil_prefix
  | cons a as ih =>
    cases cs with
    | nil => exact absurd (List.prefix_nil.1 h) (by simp)
    | cons c cs =>
      rw [List.map_cons, List.flatMap_cons] at h
      rcases hcode c with ⟨hself, hinj⟩ | ⟨x, code, hx, hnot⟩
      · rw [hself, List.singleton_append] at h
        obtain ⟨heq, hrest⟩ := List.cons_prefix_cons.1 h
        rw [hinj a (.head _) heq]
        refine List.cons_prefix_cons.2 ⟨rfl, ih (fun c => ?_) hrest⟩
        rcases hcode c with ⟨hself, hinj⟩ | ⟨x, code, hx, hnot⟩
        · exact .inl ⟨hself, fun a' ha' => hinj a' (.tail _ ha')⟩
        · exact .inr ⟨x, code, hx, fun hmem => hnot (.tail _ hmem)⟩
      · rw [hx, List.cons_append] at h
        obtain ⟨rfl, -⟩ := List.cons_prefix_cons.1 h
        exact absurd (.head _) hnot

/-- **A plain word occurs in the encoded text exactly where it occurs in the text.** -/
theorem Plain.infix_iff {as cs : List α} (hplain : Plain f g as) :
    as.flatMap f <:+: cs.flatMap f ↔ as <:+: cs := by
  refine ⟨fun h => ?_, infix_flatMap f⟩
  rw [hplain.flatMap] at h
  obtain ⟨-, hcode⟩ := hplain
  cases as with
  | nil => exact List.nil_infix
  | cons a as =>
    induction cs with
    | nil => exact absurd (List.infix_nil.1 h) (by simp)
    | cons c cs ih =>
      rw [List.flatMap_cons] at h
      rcases hcode c with ⟨hself, -⟩ | ⟨x, code, hx, -, hfirst⟩
      · rw [hself, List.singleton_append] at h
        rcases List.infix_cons_iff.1 h with hprefix | h
        · refine (prefix_of_flatMap (f := f) (g := g) (fun c => ?_) ?_).isInfix
          · exact (hcode c).imp id fun ⟨x, code, hx, hnot, _⟩ => ⟨x, code, hx, hnot⟩
          · rw [List.flatMap_cons, hself, List.singleton_append]
            exact hprefix
        · exact List.infix_cons (ih h)
      · have hnot : g a ∉ f c := hfirst a rfl
        exact List.infix_cons (ih (infix_of_append hnot h))

end

/-! ## Searching

Recursors instead of equations, so that the kernel runs the search. -/

/-- Whether a word of numbers stands at the front of a text. -/
def atFront (w : List Nat) : List Nat → Bool :=
  List.rec (fun _ => true) (fun a _ ih text =>
    List.rec false (fun b rest _ => bif Nat.beq a b then ih rest else false) text) w

/-- Whether a word of numbers stands somewhere in a text. -/
def found (w text : List Nat) : Bool :=
  List.rec (atFront w []) (fun b rest ih => bif atFront w (b :: rest) then true else ih) text

/-- A prefix is found at the front. -/
theorem atFront_of_isPrefix {w text : List Nat} (h : w <+: text) : atFront w text = true := by
  induction w generalizing text with
  | nil => rfl
  | cons a w ih =>
    cases text with
    | nil => cases List.prefix_nil.1 h
    | cons b text =>
      obtain ⟨rfl, hrest⟩ := List.cons_prefix_cons.1 h
      have hstep : atFront (a :: w) (a :: text) =
          bif Nat.beq a a then atFront w text else false := rfl
      rw [hstep, Nat.beq_refl, ih hrest]
      rfl

/-- A word that stands in a text is found there. -/
theorem found_of_infix {w text : List Nat} (h : w <:+: text) : found w text = true := by
  induction text with
  | nil => exact atFront_of_isPrefix (List.infix_nil.1 h ▸ List.prefix_rfl)
  | cons b text ih =>
    have hstep : found w (b :: text) =
        bif atFront w (b :: text) then true else found w text := rfl
    rw [hstep]
    rcases List.infix_cons_iff.1 h with hfront | hrest
    · rw [atFront_of_isPrefix hfront]
      rfl
    · rw [ih hrest]
      cases atFront w (b :: text) <;> rfl

end Occurs
