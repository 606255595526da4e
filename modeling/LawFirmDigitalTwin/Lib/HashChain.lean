import Mathlib.Data.List.Induction
import Mathlib.Data.List.Nodup
import Mathlib.Algebra.Order.Ring.Int

/-!
# Hash chains

A log in which every entry has a sequence number and the hash of its predecessor. The log of a list
of items is `links`: the numbers count up from a start, and the hash of an entry is computed from
its number, the hash before it and the item. `head` is the hash after the last entry.
-/

namespace HashChain

variable {κ α : Type*}

/-- An entry: its number, the hash of the entry before it, and its item. -/
structure Link (κ α : Type*) where
  sequence : Int
  parent : κ
  item : α

section
variable (next : Int → κ → α → κ)

/-- The hash of an entry. -/
def Link.hash (l : Link κ α) : κ := next l.sequence l.parent l.item

/-- The log of a list of items, from the number `n` and the hash `k` on. -/
def links : Int → κ → List α → List (Link κ α)
  | _, _, [] => []
  | n, k, a :: as => ⟨n, k, a⟩ :: links (n + 1) (next n k a) as

/-- The hash after the last entry. -/
def head : Int → κ → List α → κ
  | _, k, [] => k
  | n, k, a :: as => head (n + 1) (next n k a) as

/-- The links of a history in two parts. -/
theorem links_append (n : Int) (k : κ) (as bs : List α) :
    links next n k (as ++ bs) =
      links next n k as ++ links next (n + as.length) (head next n k as) bs := by
  induction as generalizing n k with
  | nil => simp [links, head]
  | cons a as ih =>
    simp only [List.cons_append, links, head, ih, List.length_cons]
    congr 3
    omega

/-- The link of the last item stands on the head before it. -/
theorem links_concat (n : Int) (k : κ) (as : List α) (a : α) :
    links next n k (as ++ [a]) =
      links next n k as ++ [⟨n + as.length, head next n k as, a⟩] :=
  links_append next n k as [a]

/-- The head after one more item. -/
theorem head_concat (n : Int) (k : κ) (as : List α) (a : α) :
    head next n k (as ++ [a]) = next (n + as.length) (head next n k as) a := by
  induction as generalizing n k with
  | nil => simp [head]
  | cons b as ih =>
    simp only [List.cons_append, head, ih, List.length_cons]
    congr 1
    omega

@[simp] theorem length_links (n : Int) (k : κ) (as : List α) :
    (links next n k as).length = as.length := by
  induction as generalizing n k with
  | nil => rfl
  | cons a as ih => simp [links, ih]

@[simp] theorem map_item_links (n : Int) (k : κ) (as : List α) :
    (links next n k as).map (·.item) = as := by
  induction as generalizing n k with
  | nil => rfl
  | cons a as ih => simp [links, ih]

/-- The numbers lie between the start and the length of the log. -/
theorem sequence_bounds {n : Int} {k : κ} {as : List α} {l : Link κ α}
    (h : l ∈ links next n k as) : n ≤ l.sequence ∧ l.sequence < n + as.length := by
  induction as generalizing n k with
  | nil => cases h
  | cons a as ih =>
    rw [List.length_cons]
    rcases List.mem_cons.1 h with rfl | h
    · constructor <;> simp only <;> omega
    · have := ih h
      omega

/-- The numbers count up from the start. -/
theorem map_sequence_links (n : Int) (k : κ) (as : List α) :
    (links next n k as).map (·.sequence) = (List.range as.length).map fun i : Nat => n + i := by
  induction as using List.reverseRecOn with
  | nil => rfl
  | append_singleton as a ih =>
    rw [links_concat, List.map_append, ih, List.length_append, List.length_singleton,
      List.range_succ, List.map_append]
    rfl

/-- The numbers increase along the log. -/
theorem pairwise_sequence (n : Int) (k : κ) (as : List α) :
    (links next n k as).Pairwise (·.sequence < ·.sequence) := by
  induction as generalizing n k with
  | nil => exact .nil
  | cons a as ih =>
    refine .cons (fun l hl => ?_) (ih _ _)
    have := (sequence_bounds next hl).1
    show n < l.sequence
    omega

/-- An entry is known by its number. -/
theorem eq_of_sequence {n : Int} {k : κ} {as : List α} {l l' : Link κ α} (hl : l ∈ links next n k as)
    (hl' : l' ∈ links next n k as) (h : l.sequence = l'.sequence) : l = l' := by
  have hnodup : ((links next n k as).map (·.sequence)).Nodup :=
    List.pairwise_map.2 ((pairwise_sequence next n k as).imp fun hlt => by omega)
  exact List.inj_on_of_nodup_map hnodup hl hl' h

/-- Every entry has the hash before it: the parents and the head are the hashes, one place on. -/
theorem parents_links (n : Int) (k : κ) (as : List α) :
    (links next n k as).map (·.parent) ++ [head next n k as] =
      k :: (links next n k as).map (·.hash next) := by
  induction as generalizing n k with
  | nil => rfl
  | cons a as ih =>
    simp only [links, head, List.map_cons, List.cons_append, ih]
    rfl

/-- Where no hash repeats, no two entries have the same parent. -/
theorem nodup_parents {n : Int} {k : κ} {as : List α}
    (h : (k :: (links next n k as).map (·.hash next)).Nodup) :
    ((links next n k as).map (·.parent)).Nodup := by
  rw [← parents_links] at h
  exact h.of_append_left

/-- **The head binds the log.** Where entries with the same hash are the same and no entry has the
hash the logs start from, two logs with the same head are of the same items. -/
theorem eq_of_head_eq {n : Int} {k : κ} {as bs : List α}
    (hinj : ∀ l ∈ links next n k as, ∀ l' ∈ links next n k bs, l.hash next = l'.hash next → l = l')
    (hstart : ∀ l ∈ links next n k as, l.hash next ≠ k)
    (hstart' : ∀ l ∈ links next n k bs, l.hash next ≠ k)
    (h : head next n k as = head next n k bs) : as = bs := by
  induction as using List.reverseRecOn generalizing bs with
  | nil =>
    rcases List.eq_nil_or_concat bs with rfl | ⟨bs, b, rfl⟩
    · rfl
    · rw [List.concat_eq_append] at *
      rw [head_concat] at h
      exact absurd h.symm (hstart' ⟨_, _, b⟩ (by rw [links_concat]; simp))
  | append_singleton as a ih =>
    rw [head_concat] at h
    rcases List.eq_nil_or_concat bs with rfl | ⟨bs, b, rfl⟩
    · exact absurd h (hstart ⟨_, _, a⟩ (by rw [links_concat]; simp))
    · rw [List.concat_eq_append] at *
      rw [head_concat] at h
      rw [links_concat, links_concat] at hinj
      rw [links_concat] at hstart hstart'
      have hlast := hinj _ (List.mem_append_right _ (.head _)) _
        (List.mem_append_right _ (.head _)) h
      obtain ⟨-, hparent, rfl⟩ := Link.mk.inj hlast
      rw [ih (fun l hl l' hl' => hinj l (List.mem_append_left _ hl) l' (List.mem_append_left _ hl'))
        (fun l hl => hstart l (List.mem_append_left _ hl))
        (fun l hl => hstart' l (List.mem_append_left _ hl)) hparent]

end

end HashChain
