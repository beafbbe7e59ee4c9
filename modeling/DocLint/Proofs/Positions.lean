import DocLint.Rules
import DocLint.Proofs.Locate

/-!
# Positions as machine words

The position of a line with content is a machine word, and so is the one behind it. The last line of
a block comes from a sum of words. It is the line that the span leads to as long as this line is a
word; behind the largest word the sum starts again, and the block ends in front of its first line.
-/

namespace DocLint

namespace LineIndex

theorem isBlank_of_line?_none {x : LineIndex} {i : Nat} (h : x.line? i = none) :
    x.isBlank i = true := by
  rw [line?] at h
  rw [isBlank, h]

/-- The lines up to the last one with content, and the blank lines behind it. -/
theorem exists_lines_eq_append (x : LineIndex) :
    ∃ ls ms, x.lines = ls ++ ms ∧ ls.length = x.contentEnd ∧
      (∀ l ∈ ls.getLast?, Text.isBlank l = false) ∧ ∀ m ∈ ms, Text.isBlank m = true := by
  refine ⟨(x.lines.reverse.dropWhile Text.isBlank).reverse,
    (x.lines.reverse.takeWhile Text.isBlank).reverse, ?_, List.length_reverse, ?_, ?_⟩
  · rw [← List.reverse_append, List.takeWhile_append_dropWhile, List.reverse_reverse]
  · intro l hl
    have hhead := List.head?_dropWhile_not Text.isBlank x.lines.reverse
    rw [List.getLast?_reverse] at hl
    rw [hl] at hhead
    exact hhead
  · intro m hm
    exact List.mem_takeWhile_imp (List.mem_reverse.mp hm)

theorem contentEnd_le_iff (x : LineIndex) (n : Nat) :
    x.contentEnd ≤ n ↔ ∀ i, n ≤ i → x.isBlank i = true := by
  obtain ⟨ls, ms, hlines, hlength, hlast, hblank⟩ := x.exists_lines_eq_append
  constructor
  · intro h i hi
    cases hl : x.line? i with
    | none => exact isBlank_of_line?_none hl
    | some l =>
      rw [isBlank_eq_of_line? hl]
      rw [line?, hlines, List.getElem?_append_right (by omega)] at hl
      exact hblank l (List.mem_of_getElem? hl)
  · intro h
    refine Nat.le_of_not_lt fun hlt => ?_
    -- The last of the lines with content stands at or behind `n`.
    have hne : ls ≠ [] := List.ne_nil_of_length_pos (by omega)
    have hl : x.line? (x.contentEnd - 1) = some (ls.getLast hne) := by
      rw [line?, hlines, List.getElem?_append_left (by omega), ← hlength,
        ← List.getLast?_eq_getElem?, List.getLast?_eq_some_getLast hne]
    have hcontent := hlast _ (List.getLast?_eq_some_getLast hne)
    rw [← isBlank_eq_of_line? hl, h _ (by omega)] at hcontent
    cases hcontent

theorem lt_contentEnd {x : LineIndex} {i : Nat} (h : x.isBlank i = false) : i < x.contentEnd := by
  refine Nat.lt_of_not_le fun hle => ?_
  rw [(x.contentEnd_le_iff i).mp hle i (Nat.le_refl i)] at h
  cases h

/-- The number of a line with content, counted from 1, is a machine word. -/
theorem succ_lt_wordSize {x : LineIndex} {i : Nat} (h : x.isBlank i = false) :
    i + 1 < x.wordSize :=
  Nat.succ_lt_succ (Nat.lt_of_lt_of_le (lt_contentEnd h) (Nat.le_max_right _ _))

theorem wordAdd_one {x : LineIndex} {i : Nat} (h : x.isBlank i = false) :
    x.wordAdd i 1 = i + 1 :=
  wordAdd_of_lt (succ_lt_wordSize h)

end LineIndex

namespace Placed

variable {x : LineIndex} {start : Nat} {b : Block}

/-- The line that the span of a block leads to is a machine word, if the block was found. -/
def FitsWord (x : LineIndex) (p : Placed) : Prop :=
  ∀ start ∈ p.found, start + p.block.span ≤ x.wordSize

instance (x : LineIndex) (p : Placed) : Decidable (p.FitsWord x) :=
  inferInstanceAs (Decidable (∀ start ∈ p.found, start + p.block.span ≤ x.wordSize))

theorem reach_congr {y : LineIndex} (h : y.wordSize = x.wordSize) :
    reach y start b = reach x start b := by
  unfold reach LineIndex.wordAdd
  rw [h]
  cases (start + b.span) % x.wordSize with
  | zero => exact congrArg (· - 1) h
  | succ n => rfl

theorem reach_eq_mod (x : LineIndex) (start : Nat) (hspan : 0 < b.span) :
    reach x start b = (start + b.span - 1) % x.wordSize :=
  x.wordPred_wordAdd (by omega)

theorem reach_of_le (hspan : 0 < b.span) (h : start + b.span ≤ x.wordSize) :
    reach x start b = start + b.span - 1 := by
  rw [reach_eq_mod x start hspan, Nat.mod_eq_of_lt (by omega)]

theorem reach_le (hspan : 0 < b.span) : reach x start b ≤ start + b.span - 1 := by
  rw [reach_eq_mod x start hspan]
  exact Nat.mod_le _ _

/-- A block whose last line is not a word ends in front of its first line. -/
theorem start_le_reach_iff (hstart : start < x.wordSize) (hspan : 0 < b.span)
    (hword : b.span ≤ x.wordSize) :
    start ≤ reach x start b ↔ start + b.span ≤ x.wordSize := by
  constructor
  · intro hle
    rw [reach_eq_mod x start hspan] at hle
    refine Nat.le_of_not_lt fun hlarge => ?_
    rw [Nat.mod_eq_sub_mod (by omega), Nat.mod_eq_of_lt (by omega)] at hle
    omega
  · intro hfits
    rw [reach_of_le hspan hfits]
    omega

theorem start_le_lastLine_iff (hcontent : x.isBlank start = false) :
    start ≤ lastLine x start b ↔ start ≤ reach x start b := by
  have hlt := LineIndex.lt_count_of_isBlank hcontent
  rw [lastLine]
  omega

end Placed

end DocLint
