import DocLint.Locate
import DocLint.Proofs.Decoration

/-!
# Where the forward scan stops

`showsAt` says which lines the forward scan accepts. The scan answers the least of them at or after
its hint, or nothing if there is none. No blank line is accepted, and a line accepts every text that
agrees with it up to the white space around.
-/

namespace DocLint

namespace LineIndex

theorem isBlank_eq_of_line? {x : LineIndex} {i : Nat} {l : Text} (h : x.line? i = some l) :
    x.isBlank i = Text.isBlank l := by
  rw [line?] at h
  rw [isBlank, h]

/-- Positions past the end are blank, so a position with content is the position of a line. -/
theorem lt_count_of_isBlank {x : LineIndex} {i : Nat} (h : x.isBlank i = false) : i < x.count := by
  by_cases hi : i < x.count
  · exact hi
  · have hnone : x.lines[i]? = none := List.getElem?_eq_none (Nat.le_of_not_lt hi)
    rw [isBlank, hnone] at h
    cases h

end LineIndex

namespace Locator

/-! ## One line -/

theorem shows_of_isBlank (needle : Text) {line : Text} (h : Text.isBlank line = true) :
    shows needle line = false := by
  simp only [shows, h, Decoration.strip_of_isBlank h, Text.occursIn]
  split
  · rfl
  · next hwords => exact Bool.eq_false_iff.mpr hwords

theorem shows_of_isInfix {needle line : Text} (hline : Text.isBlank line = false)
    (h : Decoration.strip needle <:+: Decoration.strip line) : shows needle line = true := by
  simp only [shows, hline]
  split
  · rfl
  · exact (Text.occursIn_iff_isInfix _ _).mpr h

theorem shows_of_trim_eq {needle line : Text} (hline : Text.isBlank line = false)
    (h : Text.trim needle = Text.trim line) : shows needle line = true := by
  have hsame : Decoration.strip needle = Decoration.strip line := Decoration.strip_eq_of_trim_eq h
  exact shows_of_isInfix hline (hsame ▸ List.infix_rfl)

/-- A byte order mark in front of a line hides none of its words. -/
theorem shows_mark_cons {needle line : Text} (h : Text.trim needle = Text.trim line) :
    shows needle (Text.byteOrderMark :: line) = true := by
  apply shows_of_isInfix
  · rfl
  · rw [Decoration.strip_eq_of_trim_eq h]
    exact (Decoration.strip_isInfix_trim line).trans (Decoration.trim_isInfix_strip_mark_cons line)

/-! ## The lines of a document -/

def showsAt (x : LineIndex) (needle : Text) (i : Nat) : Bool :=
  (x.line? i).any (shows needle)

theorem showsAt_of_line? {x : LineIndex} {needle l : Text} {i : Nat} (hl : x.line? i = some l) :
    showsAt x needle i = shows needle l := by
  rw [showsAt, hl, Option.any_some]

theorem showsAt_of_isBlank {x : LineIndex} {i : Nat} (needle : Text) (h : x.isBlank i = true) :
    showsAt x needle i = false := by
  cases hl : x.line? i with
  | none => rw [showsAt, hl, Option.any_none]
  | some l =>
    rw [LineIndex.isBlank_eq_of_line? hl] at h
    rw [showsAt_of_line? hl, shows_of_isBlank needle h]

theorem isBlank_of_showsAt {x : LineIndex} {needle : Text} {i : Nat}
    (h : showsAt x needle i = true) : x.isBlank i = false := by
  cases hb : x.isBlank i with
  | false => rfl
  | true =>
    rw [showsAt_of_isBlank needle hb] at h
    cases h

/-! ## The scan -/

theorem firstFrom_eq_findIdx? (needle : Text) (start : Nat) (ls : List Text) :
    firstFrom needle start ls = (ls.findIdx? (shows needle)).map (start + ·) := by
  induction ls generalizing start with
  | nil => rfl
  | cons l ls ih =>
    rw [firstFrom, List.findIdx?_cons]
    split
    · rfl
    · rw [ih, Option.map_map]
      congr 1
      funext i
      simp only [Function.comp_apply]
      omega

theorem showsAt_add (x : LineIndex) (needle : Text) (hint i : Nat) :
    showsAt x needle (hint + i) = ((x.lines.drop hint)[i]?).any (shows needle) := by
  rw [showsAt, LineIndex.line?, List.getElem?_drop]

theorem scan_eq_none_iff (x : LineIndex) (needle : Text) (hint : Nat) :
    scan x needle hint = none ↔ ∀ i, hint ≤ i → showsAt x needle i = false := by
  rw [scan, firstFrom_eq_findIdx?, Option.map_eq_none_iff, List.findIdx?_eq_none_iff]
  constructor
  · intro h i hi
    rw [← Nat.add_sub_cancel' hi, showsAt_add]
    cases hl : (x.lines.drop hint)[i - hint]? with
    | none => rfl
    | some l => exact h l (List.mem_of_getElem? hl)
  · intro h l hl
    obtain ⟨i, hi⟩ := List.getElem?_of_mem hl
    have hshow := h (hint + i) (Nat.le_add_right hint i)
    rwa [showsAt_add, hi, Option.any_some] at hshow

/-- The scan answers the least line at or after the hint that shows the needle. -/
theorem scan_eq_some_iff (x : LineIndex) (needle : Text) (hint i : Nat) :
    scan x needle hint = some i ↔
      hint ≤ i ∧ showsAt x needle i = true ∧
        ∀ j, hint ≤ j → j < i → showsAt x needle j = false := by
  rw [scan, firstFrom_eq_findIdx?, Option.map_eq_some_iff]
  constructor
  · rintro ⟨k, hk, rfl⟩
    obtain ⟨hlt, hshow, hbefore⟩ := List.findIdx?_eq_some_iff_getElem.mp hk
    refine ⟨Nat.le_add_right hint k, ?_, ?_⟩
    · rw [showsAt_add, List.getElem?_eq_getElem hlt, Option.any_some, hshow]
    · intro j hj hjk
      have hj' : j - hint < k := by omega
      rw [← Nat.add_sub_cancel' hj, showsAt_add,
        List.getElem?_eq_getElem (Nat.lt_trans hj' hlt), Option.any_some]
      exact Bool.eq_false_iff.mpr (hbefore (j - hint) hj')
  · rintro ⟨hle, hshow, hbefore⟩
    refine ⟨i - hint, List.findIdx?_eq_some_iff_getElem.mpr ?_, by omega⟩
    rw [← Nat.add_sub_cancel' hle, showsAt_add] at hshow
    cases hl : (x.lines.drop hint)[i - hint]? with
    | none =>
      rw [hl] at hshow
      cases hshow
    | some l =>
      obtain ⟨hlt, heq⟩ := List.getElem?_eq_some_iff.mp hl
      rw [hl] at hshow
      refine ⟨hlt, heq ▸ hshow, ?_⟩
      intro j hj
      have hnot := hbefore (hint + j) (Nat.le_add_right hint j) (by omega)
      rw [showsAt_add, List.getElem?_eq_getElem (Nat.lt_trans hj hlt)] at hnot
      exact Bool.eq_false_iff.mp hnot

theorem isBlank_of_scan {x : LineIndex} {needle : Text} {hint i : Nat}
    (h : scan x needle hint = some i) : x.isBlank i = false :=
  isBlank_of_showsAt ((scan_eq_some_iff x needle hint i).mp h).2.1

/-- A line that shows the needle bounds the scan from above. -/
theorem exists_scan_le {x : LineIndex} {needle : Text} {hint s : Nat} (hs : hint ≤ s)
    (hshow : showsAt x needle s = true) : ∃ i, scan x needle hint = some i ∧ i ≤ s := by
  cases h : scan x needle hint with
  | none =>
    rw [(scan_eq_none_iff x needle hint).mp h s hs] at hshow
    cases hshow
  | some i =>
    refine ⟨i, rfl, Nat.le_of_not_lt fun hlt => ?_⟩
    rw [((scan_eq_some_iff x needle hint i).mp h).2.2 s hs hlt] at hshow
    cases hshow

/-- Behind blank lines, the scan answers the first line that shows the needle. -/
theorem scan_eq_of_blank_before {x : LineIndex} {needle : Text} {hint s : Nat} (hs : hint ≤ s)
    (hblank : ∀ i, hint ≤ i → i < s → x.isBlank i = true)
    (hshow : showsAt x needle s = true) : scan x needle hint = some s :=
  (scan_eq_some_iff x needle hint s).mpr
    ⟨hs, hshow, fun j hj hjs => showsAt_of_isBlank needle (hblank j hj hjs)⟩

end Locator

end DocLint
