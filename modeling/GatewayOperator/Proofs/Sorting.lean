import Mathlib.Data.List.Nodup
import Mathlib.Data.List.Sort

/-!
# Stable sorting

## Main Statements

* `filter_mergeSort` — what is equal in order stays as it stood.
* `mergeSort_eq` — a list that was sorted by one order is brought by another one into the order that
  compares by the second first.
-/

namespace GatewayOperator

variable {α : Type} {key : α → Int} {before : α → α → Prop} {l sorted : List α}

/-- A list in order is what its items are sorted to, where items of the same place are the same. -/
theorem mergeSort_eq_of_perm {le : α → α → Bool}
    (trans : ∀ a b c, le a b = true → le b c = true → le a c = true)
    (total : ∀ a b, (le a b || le b a) = true)
    (antisymm : ∀ a ∈ sorted, ∀ b ∈ sorted, le a b = true → le b a = true → a = b)
    (same : l.Perm sorted) (ordered : sorted.Pairwise fun a b => le a b = true) :
    l.mergeSort le = sorted := by
  have perm := (List.mergeSort_perm l le).trans same
  refine List.Perm.eq_of_pairwise (fun a b mem mem' => ?_)
    (List.pairwise_mergeSort trans total l) ordered perm
  exact antisymm a (perm.mem_iff.mp mem) b mem'

theorem key_le_trans (key : α → Int) (a b c : α) (h : decide (key a ≤ key b) = true)
    (h' : decide (key b ≤ key c) = true) : decide (key a ≤ key c) = true := by
  simp only [decide_eq_true_eq] at *
  omega

theorem key_le_total (key : α → Int) (a b : α) :
    (decide (key a ≤ key b) || decide (key b ≤ key a)) = true := by
  simp only [Bool.or_eq_true, decide_eq_true_eq]
  omega

/-- Items of the same key stand after sorting as they stood before. -/
theorem filter_mergeSort (key : α → Int) (l : List α) (k : Int) :
    (l.mergeSort fun a b => key a ≤ key b).filter (fun a => key a = k) =
      l.filter fun a => key a = k := by
  -- The items of one key are in order, so sorting leaves them together.
  have ordered : (l.filter fun a => key a = k).Pairwise fun a b =>
      decide (key a ≤ key b) = true := by
    refine List.pairwise_of_forall_mem_list fun a mem b mem' => ?_
    have := List.mem_filter.mp mem
    have := List.mem_filter.mp mem'
    simp_all
  have kept := List.sublist_mergeSort (key_le_trans key) (key_le_total key) ordered
    List.filter_sublist
  have kept' := kept.filter fun a => key a = k
  rw [List.filter_filter] at kept'
  simp only [Bool.and_self] at kept'
  refine (kept'.eq_of_length ?_).symm
  exact ((List.mergeSort_perm l _).filter _).length_eq.symm

/-- Items that stand in some order stand in that order within each key after they were sorted by
their keys. -/
theorem pairwise_mergeSort_key (ordered : l.Pairwise before) :
    (l.mergeSort fun a b => key a ≤ key b).Pairwise fun a b =>
      key a < key b ∨ key a = key b ∧ before a b := by
  have byKey := List.pairwise_mergeSort (key_le_trans key) (key_le_total key) l
  have within (k : Int) : ((l.mergeSort fun a b => key a ≤ key b).filter
      (fun a => key a = k)).Pairwise before := by
    rw [filter_mergeSort]
    exact ordered.filter _
  generalize (l.mergeSort fun a b => key a ≤ key b) = sorted at byKey within
  induction sorted with
  | nil => exact .nil
  | cons a rest ih =>
    obtain ⟨first, byKey⟩ := List.pairwise_cons.mp byKey
    refine List.pairwise_cons.mpr ⟨fun b mem => ?_, ih byKey fun k => ?_⟩
    · have least : key a ≤ key b := of_decide_eq_true (first b mem)
      by_cases same : key a = key b
      · have here := within (key a)
        rw [List.filter_cons_of_pos (by simp)] at here
        refine Or.inr ⟨same, (List.pairwise_cons.mp here).1 b ?_⟩
        exact List.mem_filter.mpr ⟨mem, decide_eq_true same.symm⟩
      · exact Or.inl (by omega)
    · exact (within k).sublist ((List.sublist_cons_self a rest).filter _)

/-- A list that stands in one order, sorted by another one, is the list that stands in the order of
both. -/
theorem mergeSort_eq (asymm : ∀ a b, before a b → ¬before b a) (same : l.Perm sorted)
    (ordered : l.Pairwise before)
    (ordered' : sorted.Pairwise fun a b => key a < key b ∨ key a = key b ∧ before a b) :
    (l.mergeSort fun a b => key a ≤ key b) = sorted := by
  refine List.Perm.eq_of_pairwise (fun a b _ _ first second => ?_)
    (pairwise_mergeSort_key ordered) ordered' ((List.mergeSort_perm l _).trans same)
  rcases first with less | ⟨_, first⟩
  · rcases second with less' | ⟨equal, _⟩
    · omega
    · omega
  · rcases second with less' | ⟨_, second⟩
    · omega
    · exact absurd second (asymm a b first)

end GatewayOperator
