import DocLint.Diagnostic
import DocLint.Path

/-!
# The orders of texts, paths and findings

Texts are compared character by character, paths step by step, and findings by line, rule and
message. Each of these comparisons is lexicographic, so it is total and transitive, and texts and
steps that compare equal are equal. Sorting by such a comparison is stable: it commutes with whatever
is done to single elements without changing how they compare.
-/

namespace DocLint

open Std

/-! ## Texts -/

namespace Text

theorem compare_eq_compareLex : compare = List.compareLex (compareOn Char.toNat) := by
  funext a b
  induction a generalizing b with
  | nil => cases b <;> rfl
  | cons c cs ih =>
    cases b with
    | nil => rfl
    | cons d ds =>
      rw [compare, List.compareLex_cons_cons, ih]
      simp only [compareOn, Nat.compare_eq_ite_lt]
      split
      · rfl
      · split <;> rfl

instance : TransCmp compare := by
  rw [compare_eq_compareLex]
  infer_instance

instance : LawfulEqCmp (compareOn Char.toNat) where
  eq_of_compare h := Char.toNat_inj.mp (Nat.compare_eq_eq.mp h)

instance : LawfulEqCmp compare := by
  rw [compare_eq_compareLex]
  infer_instance

/-- Compares things by a text that belongs to them. -/
def compareBy {α : Type} (key : α → Text) (a b : α) : Ordering :=
  compare (key a) (key b)

instance {α : Type} (key : α → Text) : TransCmp (compareBy key) where
  eq_swap {a b} := by
    show compare (key a) (key b) = (compare (key b) (key a)).swap
    exact OrientedCmp.eq_swap
  isLE_trans {a b c} (hab : (compare (key a) (key b)).isLE) hbc := by
    show (compare (key a) (key c)).isLE
    exact TransCmp.isLE_trans hab hbc

theorem compareBy_eq_eq_iff {α : Type} {key : α → Text} {a b : α} :
    compareBy key a b = .eq ↔ key a = key b := by
  unfold compareBy
  exact LawfulEqCmp.compare_eq_iff_eq

end Text

/-! ## Paths -/

namespace Path

def Step.text : Step → Text
  | .name t => t
  | _ => []

theorem Step.compare_eq_compareLex :
    Step.compare = compareLex (compareOn Step.rank) (Text.compareBy Step.text) := by
  funext a b
  cases a <;> cases b <;> rfl

instance : TransCmp Step.compare := by
  rw [Step.compare_eq_compareLex]
  infer_instance

instance : LawfulEqCmp Step.compare where
  compare_self := ReflCmp.compare_self
  eq_of_compare {a b} h := by
    rw [Step.compare_eq_compareLex, compareLex_eq_eq, Text.compareBy_eq_eq_iff] at h
    obtain ⟨hrank, htext⟩ := h
    have hrank : a.rank = b.rank := Nat.compare_eq_eq.mp hrank
    cases a <;> cases b <;> simp_all [Step.rank, Step.text]

theorem compareSteps_eq_compareLex : compareSteps = List.compareLex Step.compare := by
  funext as bs
  induction as generalizing bs with
  | nil => cases bs <;> rfl
  | cons a as ih =>
    cases bs with
    | nil => rfl
    | cons b bs => rw [compareSteps, List.compareLex_cons_cons, ih]

instance : TransCmp compareSteps := by
  rw [compareSteps_eq_compareLex]
  infer_instance

instance : LawfulEqCmp compareSteps := by
  rw [compareSteps_eq_compareLex]
  infer_instance

end Path

/-! ## Findings -/

namespace Diagnostic

theorem compareInReport_eq_compareLex :
    compareInReport = compareLex (compareLex (compareOn line) (Text.compareBy rule))
      (Text.compareBy message) := rfl

instance : TransCmp compareInReport := by
  rw [compareInReport_eq_compareLex]
  infer_instance

theorem compareInReport_eq_eq_iff {a b : Diagnostic} :
    compareInReport a b = .eq ↔ a.line = b.line ∧ a.rule = b.rule ∧ a.message = b.message := by
  rw [compareInReport_eq_compareLex, compareLex_eq_eq, compareLex_eq_eq,
    Text.compareBy_eq_eq_iff, Text.compareBy_eq_eq_iff, and_assoc, compareOn, Nat.compare_eq_eq]

end Diagnostic

/-! ## Sorting -/

section Sorting

variable {α : Type} (cmp : α → α → Ordering) [TransCmp cmp]

omit [TransCmp cmp] in
theorem ne_gt_eq_isLE (a b : α) : (cmp a b != .gt) = (cmp a b).isLE := by
  cases cmp a b <;> rfl

theorem isLE_total (a b : α) : ((cmp a b).isLE || (cmp b a).isLE) = true := by
  rw [Bool.or_eq_true]
  by_cases hab : (cmp a b).isLE
  · exact .inl hab
  · right
    rw [OrientedCmp.lt_of_not_isLE hab]
    rfl

/-- Sorting by a comparison puts no element behind a greater one. -/
theorem pairwise_mergeSort_of_cmp (l : List α) :
    (l.mergeSort fun a b => cmp a b != .gt).Pairwise fun a b => (cmp a b).isLE := by
  simp only [ne_gt_eq_isLE]
  exact List.pairwise_mergeSort (fun _ _ _ => TransCmp.isLE_trans) (isLE_total cmp) l

/-- Lists with the same elements are sorted alike if no two elements compare equal. -/
theorem mergeSort_eq_of_perm {l l' : List α} (hperm : l.Perm l')
    (heq : ∀ a ∈ l, ∀ b ∈ l, cmp a b = .eq → a = b) :
    (l.mergeSort fun a b => cmp a b != .gt) = l'.mergeSort fun a b => cmp a b != .gt := by
  have hsorted : (l.mergeSort fun a b => cmp a b != .gt).Perm l := List.mergeSort_perm l _
  have hsorted' : (l'.mergeSort fun a b => cmp a b != .gt).Perm l' := List.mergeSort_perm l' _
  refine List.Perm.eq_of_pairwise ?_ (pairwise_mergeSort_of_cmp cmp l)
    (pairwise_mergeSort_of_cmp cmp l') (hsorted.trans (hperm.trans hsorted'.symm))
  intro a b ha hb hab hba
  apply heq a (hsorted.mem_iff.mp ha) b (hperm.mem_iff.mpr (hsorted'.mem_iff.mp hb))
  exact OrientedCmp.isLE_antisymm hab hba

end Sorting

end DocLint
