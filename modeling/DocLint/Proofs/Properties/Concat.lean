import DocLint.Manifest
import DocLint.Proofs.Line

/-!
# Property files one below the other

Reading a property file goes from line to line and carries nothing along but the beginning of a
definition that goes on. Where no such beginning is left, a file may be cut: the definitions of the
whole are those of the upper part and those of the lower part. As the last definition of a key
counts, the lower part decides if it defines the key, and the upper part if it does not.
-/

namespace DocLint

namespace Properties

/-- What was found in the lines so far: the logical lines that are complete, and the beginning of
one that goes on. -/
structure Scan where
  complete : List Text
  pending : Option Text
  deriving DecidableEq, Repr

namespace Scan

def step (s : Scan) (raw : Text) : Scan :=
  let line := Text.trimStart raw
  if s.pending.isNone && isSkipped line then s
  else if continues line then { s with pending := some (s.pending.getD [] ++ line.dropLast) }
  else ⟨s.complete ++ [s.pending.getD [] ++ line], none⟩

/-- The logical lines if no line follows: what is pending ends here. -/
def logicalLines (s : Scan) : List Text :=
  s.complete ++ s.pending.toList

theorem joinLines_cons (s : Scan) (raw : Text) (more : List Text) :
    s.complete ++ joinLines s.pending (raw :: more) =
      (s.step raw).complete ++ joinLines (s.step raw).pending more := by
  obtain ⟨complete, pending⟩ := s
  rw [joinLines, step]
  by_cases hskip : (pending.isNone && isSkipped (Text.trimStart raw)) = true
  · -- Comments and blank lines are left out only where nothing is pending.
    have hnone : pending = none := by
      rw [Bool.and_eq_true] at hskip
      exact Option.isNone_iff_eq_none.mp hskip.1
    simp only [if_pos hskip]
    rw [hnone]
  · by_cases hgoes : continues (Text.trimStart raw) = true
    · simp only [if_neg hskip, if_pos hgoes]
    · simp only [if_neg hskip, if_neg hgoes, List.append_assoc, List.singleton_append]

theorem logicalLines_foldl (s : Scan) (ls : List Text) :
    (ls.foldl step s).logicalLines = s.complete ++ joinLines s.pending ls := by
  induction ls generalizing s with
  | nil => rfl
  | cons raw ls ih => rw [List.foldl_cons, ih, joinLines_cons]

theorem step_of_isSkipped {s : Scan} (hs : s.pending = none) {raw : Text}
    (hraw : isSkipped (Text.trimStart raw) = true) : s.step raw = s := by
  rw [step, hs]
  exact if_pos hraw

theorem foldl_of_isSkipped {s : Scan} (hs : s.pending = none) {ls : List Text}
    (hls : ∀ raw ∈ ls, isSkipped (Text.trimStart raw) = true) : ls.foldl step s = s := by
  induction ls with
  | nil => rfl
  | cons raw ls ih =>
    obtain ⟨hraw, hls⟩ := List.forall_mem_cons.mp hls
    rw [List.foldl_cons, step_of_isSkipped hs hraw, ih hls]

end Scan

def scan (t : Text) : Scan :=
  t.lines.foldl Scan.step ⟨[], none⟩

theorem logicalLines_scan (t : Text) : (scan t).logicalLines = logicalLines t :=
  Scan.logicalLines_foldl ⟨[], none⟩ t.lines

/-- Where nothing is pending, a text falls into two parts that are read for themselves. -/
theorem logicalLines_append_lf {a : Text} (ha : (scan a).pending = none) (b : Text) :
    logicalLines (a ++ '\n' :: b) = logicalLines a ++ logicalLines b := by
  have hupper : logicalLines a = (scan a).complete := by
    rw [← logicalLines_scan, Scan.logicalLines, ha, Option.toList_none, List.append_nil]
  -- The line feed may have made an empty line, which says nothing.
  have hgap : ∀ gap : List Text, gap = [[]] ∨ gap = [] →
      gap.foldl Scan.step (scan a) = scan a := by
    rintro gap (rfl | rfl)
    · exact Scan.step_of_isSkipped ha rfl
    · rfl
  rw [hupper, ← logicalLines_scan, scan, Text.lines_append_lf, List.foldl_append,
    List.foldl_append, ← scan, hgap _ (by split <;> simp), Scan.logicalLines_foldl, ha]
  rfl

/-- Some definition of a text has a key. -/
def Defines (t key : Text) : Prop :=
  ∃ line ∈ logicalLines t, (splitLine line).1 = key

instance (t key : Text) : Decidable (Defines t key) :=
  inferInstanceAs (Decidable (∃ line ∈ logicalLines t, _))

theorem value?_eq_none_iff {t key : Text} : value? t key = none ↔ ¬Defines t key := by
  unfold value? entries Defines
  rw [Option.map_eq_none_iff, List.find?_eq_none]
  simp only [List.mem_reverse, List.mem_map, beq_iff_eq, not_exists, not_and]
  constructor
  · intro h line hline
    exact h _ ⟨line, hline, rfl⟩
  · rintro h _ ⟨line, hline, rfl⟩
    exact h line hline

/-- The last definition counts, so the lower part of a text is asked first. -/
theorem value?_append_lf {a : Text} (ha : (scan a).pending = none) (b key : Text) :
    value? (a ++ '\n' :: b) key = (value? b key).or (value? a key) := by
  unfold value? entries
  rw [logicalLines_append_lf ha, List.map_append, List.reverse_append, List.find?_append,
    Option.map_or]

end Properties

namespace Manifest

open Properties

/-- Manifests may be put one below the other if the upper one does not end within a definition. The
lower one decides on the list of packaged files if it defines the list, and else the upper one does.
So whatever stands between the two without defining the list changes nothing; comments and blank
lines do not define anything. -/
theorem includes_append_lf {a : Text} (ha : (scan a).pending = none) (b : Text) :
    (Defines b property → (parse (a ++ '\n' :: b)).includes = (parse b).includes) ∧
    (¬Defines b property → (parse (a ++ '\n' :: b)).includes = (parse a).includes) ∧
    (∀ c, (scan c).pending = none → ¬Defines c property →
      (parse (a ++ '\n' :: (c ++ '\n' :: b))).includes = (parse (a ++ '\n' :: b)).includes) ∧
    ∀ c : Text, (∀ line ∈ c.lines, isSkipped (Text.trimStart line) = true) →
      (parse (a ++ '\n' :: (c ++ '\n' :: b))).includes = (parse (a ++ '\n' :: b)).includes := by
  have hinsert : ∀ c, (scan c).pending = none → ¬Defines c property →
      (parse (a ++ '\n' :: (c ++ '\n' :: b))).includes = (parse (a ++ '\n' :: b)).includes := by
    intro c hc hother
    unfold parse
    rw [value?_append_lf ha, value?_append_lf hc, value?_append_lf ha,
      value?_eq_none_iff.mpr hother, Option.or_none]
  refine ⟨?_, ?_, hinsert, ?_⟩
  · intro hb
    unfold parse
    rw [value?_append_lf ha]
    cases hvalue : value? b property with
    | none => exact absurd hb (value?_eq_none_iff.mp hvalue)
    | some value => rfl
  · intro hb
    unfold parse
    rw [value?_append_lf ha, value?_eq_none_iff.mpr hb, Option.none_or]
  · intro c hc
    have hscan : scan c = ⟨[], none⟩ := Scan.foldl_of_isSkipped rfl hc
    have hother : ¬Defines c property := by
      unfold Defines
      rw [← logicalLines_scan, hscan]
      rintro ⟨line, hline, -⟩
      exact absurd hline List.not_mem_nil
    exact hinsert c (by rw [hscan]) hother

/-- A broken definition of the list, ended by a carriage return. -/
def upperText : Text := "bin.includes = a,\\\n  b\r".toList

/-- A definition of the list that breaks off. -/
def lowerText : Text := "bin.includes:c,\\".toList

/-- A comment that seems to go on, and a definition of another key. -/
def otherText : Text := "! bin.includes=x\\\n\nsource.. = \\\nbin.includes=y".toList

theorem includes_append_lf_otherText :
    (scan upperText).pending = none ∧ (scan lowerText).pending ≠ none ∧
      (parse (upperText ++ '\n' :: lowerText)).includes = [['c']] ∧
      (parse (upperText ++ '\n' :: otherText)).includes = [['a'], ['b']] ∧
      (parse (upperText ++ '\n' :: (otherText ++ '\n' :: lowerText))).includes = [['c']] := by
  have hupper : (scan upperText).pending = none := by decide
  have hother : ¬Defines otherText property := by decide
  have hdefines : Defines lowerText property := by decide
  obtain ⟨hlower, -, hinsert, -⟩ := includes_append_lf hupper lowerText
  obtain ⟨-, hkept, -⟩ := includes_append_lf hupper otherText
  have hc : (parse (upperText ++ '\n' :: lowerText)).includes = [['c']] := by
    rw [hlower hdefines]
    decide
  refine ⟨hupper, by decide, hc, ?_, ?_⟩
  · rw [hkept hother]
    decide
  · rw [hinsert otherText (by decide) hother, hc]

end Manifest

end DocLint
