import Mathlib.Data.List.Forall2
import DocLint.Proofs.Line
import DocLint.Proofs.Utf8

/-!
# The lines of a text

Splitting loses nothing: the lines with their terminators are the text. `Separated` says which lists
of lines can come from a text, and each of them comes from its own text only, so a text has one such
decomposition. The ranges of the lines are what a scan over the bytes of the text yields: a byte
that ends a line is never part of another character.
-/

namespace DocLint

namespace Line

/-! ## Lines that stand next to each other -/

/-- Lines as a text has them. No line holds a break; only the last may lack a terminator, and then
it is not empty; and a carriage return is a terminator only if no line feed follows. -/
def Separated : List Line → Prop
  | [] => True
  | l :: ls =>
    (∀ c ∈ l.text, isBreak c = false) ∧ (l.ending = none → l.text ≠ [] ∧ ls = []) ∧
      (l.ending = some .cr → (join ls).head? ≠ some '\n') ∧ Separated ls

instance decidableSeparated : (ls : List Line) → Decidable (Separated ls)
  | [] => isTrue trivial
  | l :: ls =>
    have : Decidable (∀ c ∈ l.text, isBreak c = false) := List.decidableBAll _ _
    have := decidableSeparated ls
    inferInstanceAs (Decidable
      ((∀ c ∈ l.text, isBreak c = false) ∧ (l.ending = none → l.text ≠ [] ∧ ls = []) ∧
        (l.ending = some .cr → (join ls).head? ≠ some '\n') ∧ Separated ls))

@[simp] theorem join_nil : join [] = [] := rfl

@[simp] theorem join_cons (l : Line) (ls : List Line) : join (l :: ls) = l.source ++ join ls :=
  List.flatMap_cons

@[simp] theorem join_append (ls ms : List Line) : join (ls ++ ms) = join ls ++ join ms :=
  List.flatMap_append

theorem source_none (t : Text) : source ⟨t, none⟩ = t :=
  List.append_nil t

theorem source_some (t : Text) (nl : Terminator) : source ⟨t, some nl⟩ = t ++ nl.text := rfl

theorem source_ne_nil {l : Line} (h : l.ending = none → l.text ≠ []) : l.source ≠ [] := by
  obtain ⟨text, ending⟩ := l
  cases ending with
  | none =>
    rw [source_none]
    exact h rfl
  | some nl =>
    rw [source_some]
    cases nl <;> simp [Terminator.text]

/-! ## Splitting and joining -/

theorem join_push (c : Char) (ls : List Line) : join (push c ls) = c :: join ls := by
  cases ls with
  | nil => rfl
  | cons l ls => simp only [push, join_cons, source, List.cons_append]

theorem separated_push {c : Char} (hc : isBreak c = false) {ls : List Line} (h : Separated ls) :
    Separated (push c ls) := by
  cases ls with
  | nil => simp [push, Separated, hc]
  | cons l ls =>
    obtain ⟨hbreak, hlast, hcr, hrest⟩ := h
    refine ⟨?_, fun hnone => ⟨List.cons_ne_nil c l.text, (hlast hnone).2⟩, hcr, hrest⟩
    intro d hd
    rcases List.mem_cons.mp hd with rfl | hd
    · exact hc
    · exact hbreak d hd

theorem join_split (t : Text) : join (split t) = t := by
  fun_induction split t with
  | case1 => rfl
  | case2 cs ih => simp [source, Terminator.text, ih]
  | case3 cs hlf ih => simp [source, Terminator.text, ih]
  | case4 cs ih => simp [source, Terminator.text, ih]
  | case5 c cs hcrlf hcr hlf ih => rw [join_push, ih]

theorem separated_split (t : Text) : Separated (split t) := by
  fun_induction split t with
  | case1 => trivial
  | case2 cs ih => exact ⟨nofun, nofun, nofun, ih⟩
  | case3 cs hlf ih =>
    -- A line feed behind the carriage return would have been split off with it.
    refine ⟨nofun, nofun, fun _ hhead => ?_, ih⟩
    rw [join_split] at hhead
    cases cs with
    | nil => cases hhead
    | cons d ds =>
      cases hhead
      exact hlf ds rfl
  | case4 cs ih => exact ⟨nofun, nofun, nofun, ih⟩
  | case5 c cs hcrlf hcr hlf ih =>
    have hc : isBreak c = false := (isBreak_eq_false_iff c).mpr ⟨hlf, hcr⟩
    exact separated_push hc ih

/-- Lines that stand next to each other as in a text are the lines of the text they form. -/
theorem split_join {ls : List Line} (h : Separated ls) : split (join ls) = ls := by
  induction ls with
  | nil => rfl
  | cons l ls ih =>
    obtain ⟨text, ending⟩ := l
    obtain ⟨hbreak, hlast, hcr, hrest⟩ := h
    cases ending with
    | none =>
      obtain ⟨hne, rfl⟩ := hlast rfl
      rw [join_cons, join_nil, List.append_nil, source_none]
      exact split_of_no_break hbreak hne
    | some nl =>
      rw [join_cons, source_some, List.append_assoc,
        split_append_terminator hbreak nl fun hnl => hcr (congrArg some hnl), ih hrest]

/-! ## Ranges -/

open Text.Utf8

theorem forall₂_rangesFrom (u : Text) (ls : List Line) :
    List.Forall₂ (fun r l => Slice (u ++ join ls) r.1 r.2 l.text) (rangesFrom (size u) ls)
      ls := by
  induction ls generalizing u with
  | nil => exact .nil
  | cons l ls ih =>
    refine .cons ?_ ?_
    · refine ⟨u, (l.ending.map Terminator.text).getD [] ++ join ls, ?_, rfl, rfl⟩
      rw [join_cons, source, List.append_assoc]
    · have hrest := ih (u ++ l.source)
      rwa [size_append, List.append_assoc, ← join_cons] at hrest

theorem le_of_mem_rangesFrom {start : Nat} {ls : List Line} {r : Nat × Nat}
    (h : r ∈ rangesFrom start ls) : start ≤ r.1 := by
  induction ls generalizing start with
  | nil => cases h
  | cons l ls ih =>
    rcases List.mem_cons.mp h with rfl | h
    · exact Nat.le_refl start
    · exact Nat.le_trans (Nat.le_add_right _ _) (ih h)

/-- Ranges follow one another with the bytes of a terminator between them. -/
theorem pairwise_rangesFrom {ls : List Line} (h : Separated ls) (start : Nat) :
    (rangesFrom start ls).Pairwise fun r s => r.2 < s.1 := by
  induction ls generalizing start with
  | nil => exact .nil
  | cons l ls ih =>
    obtain ⟨text, ending⟩ := l
    obtain ⟨-, hlast, -, hrest⟩ := h
    refine .cons ?_ (ih hrest _)
    intro s hs
    cases ending with
    | none =>
      obtain ⟨-, rfl⟩ := hlast rfl
      cases hs
    | some nl =>
      have hle := le_of_mem_rangesFrom hs
      have hpos : 0 < size nl.text := by cases nl <;> decide
      rw [source_some, size_append] at hle
      change start + size text < s.1
      omega

/-! ## Bytes -/

def isBreakByte (b : UInt8) : Bool :=
  b == 10 || b == 13

/-- One step of a scan over bytes: the range of the line that starts at `pos`, and the start of the
next line. -/
def nextRange? (bytes : List UInt8) (pos : Nat) : Option ((Nat × Nat) × Nat) :=
  if bytes.length ≤ pos then none
  else
    match (bytes.drop pos).findIdx? isBreakByte with
    | some offset =>
      let stop := pos + offset
      let isPair := bytes[stop]? == some 13 && bytes[stop + 1]? == some 10
      some ((pos, stop), if isPair then stop + 2 else stop + 1)
    | none => some ((pos, bytes.length), bytes.length)

/-- The ranges that the scan yields from a position on, up to its end. -/
inductive Yields (bytes : List UInt8) : Nat → List (Nat × Nat) → Prop where
  | done {pos : Nat} (h : nextRange? bytes pos = none) : Yields bytes pos []
  | step {pos next : Nat} {r : Nat × Nat} {rs : List (Nat × Nat)}
      (h : nextRange? bytes pos = some (r, next)) (hrest : Yields bytes next rs) :
      Yields bytes pos (r :: rs)

theorem isBreakByte_of_mem_encode {t : Text} (ht : ∀ c ∈ t, isBreak c = false) {b : UInt8}
    (hb : b ∈ encode t) : isBreakByte b = false := by
  obtain ⟨c, hc, hbc⟩ := List.mem_flatMap.mp hb
  have hnot := ht c hc
  cases hbreak : isBreakByte b with
  | false => rfl
  | true =>
    rw [isBreakByte, Bool.or_eq_true, beq_iff_eq, beq_iff_eq] at hbreak
    rcases hbreak with rfl | rfl
    · rw [eq_of_mem_encodeChar (d := '\n') hbc (by decide) (by decide)] at hnot
      cases hnot
    · rw [eq_of_mem_encodeChar (d := '\r') hbc (by decide) (by decide)] at hnot
      cases hnot

/-- The first byte of a text is a line feed only if its first character is. -/
theorem head?_of_encode {t : Text} (h : (encode t)[0]? = some 10) : t.head? = some '\n' := by
  cases t with
  | nil => cases h
  | cons c cs =>
    have hpos : 0 < (encodeChar c).length := by
      rw [length_encodeChar]
      exact charSize_pos c
    rw [encode_cons, List.getElem?_append_left hpos] at h
    have hc := eq_of_mem_encodeChar (d := '\n') (List.mem_of_getElem? h) (by decide)
      (by decide)
    rw [List.head?_cons, hc]

section Scan

variable {u text : Text} (hbreak : ∀ c ∈ text, isBreak c = false)

include hbreak

theorem findIdx?_encode (rest : Text) :
    (encode (text ++ rest)).findIdx? isBreakByte =
      ((encode rest).findIdx? isBreakByte).map (· + size text) := by
  have hnone : (encode text).findIdx? isBreakByte = none := by
    rw [List.findIdx?_eq_none_iff]
    exact fun b hb => isBreakByte_of_mem_encode hbreak hb
  rw [encode_append, List.findIdx?_append, hnone, Option.none_or,
    length_encode]

theorem nextRange?_last (hne : text ≠ []) :
    nextRange? (encode (u ++ text)) (size u) =
      some ((size u, size u + size text), size u + size text) := by
  have hpos := size_pos hne
  have hdrop : (encode (u ++ text)).drop (size u) = encode text := by
    rw [encode_append, ← length_encode u, List.drop_left]
  have hfind := findIdx?_encode hbreak []
  rw [List.append_nil] at hfind
  rw [nextRange?, hdrop, hfind, length_encode, size_append,
    if_neg (by omega)]
  rfl

theorem nextRange?_terminated {nl : Terminator} {rest : Text}
    (hcr : nl = .cr → rest.head? ≠ some '\n') :
    nextRange? (encode (u ++ (text ++ (nl.text ++ rest)))) (size u) =
      some ((size u, size u + size text),
        size u + (size text + size nl.text)) := by
  have hpos : 0 < size nl.text := by cases nl <;> decide
  have hdrop : (encode (u ++ (text ++ (nl.text ++ rest)))).drop (size u) =
      encode (text ++ (nl.text ++ rest)) := by
    rw [encode_append, ← length_encode u, List.drop_left]
  have hget : ∀ k, (encode (u ++ (text ++ (nl.text ++ rest))))[
      size u + size text + k]? = (encode (nl.text ++ rest))[k]? := by
    intro k
    rw [← List.append_assoc, encode_append, List.getElem?_append_right]
    · rw [length_encode, size_append, Nat.add_sub_cancel_left]
    · rw [length_encode, size_append]
      omega
  have hfind : (encode (nl.text ++ rest)).findIdx? isBreakByte = some 0 := by
    cases nl <;> rfl
  rw [nextRange?, hdrop, findIdx?_encode hbreak, hfind, length_encode, if_neg (by simp; omega)]
  have hstop := hget 0
  rw [Nat.add_zero] at hstop
  simp only [Option.map_some, Nat.zero_add, hstop, hget]
  -- A line feed behind a carriage return is looked at, whatever terminator it belongs to.
  cases nl with
  | lf => rfl
  | crlf => rfl
  | cr =>
    have hnot : (encode rest)[0]? ≠ some 10 := fun h => hcr rfl (head?_of_encode h)
    have hnext : (encode (Terminator.cr.text ++ rest))[1]? = (encode rest)[0]? := rfl
    rw [hnext, beq_eq_false_iff_ne.mpr hnot, Bool.and_false]
    rfl

end Scan

theorem yields_rangesFrom (u : Text) {ls : List Line} (h : Separated ls) :
    Yields (encode (u ++ join ls)) (size u) (rangesFrom (size u) ls) := by
  -- `u` is what the scan has passed, and its size the position of the scan.
  induction ls generalizing u with
  | nil =>
    refine .done ?_
    rw [nextRange?, join_nil, List.append_nil, length_encode, if_pos (Nat.le_refl _)]
  | cons l ls ih =>
    obtain ⟨text, ending⟩ := l
    obtain ⟨hbreak, hlast, hcr, hrest⟩ := h
    have hyields := ih (u ++ source ⟨text, ending⟩) hrest
    rw [size_append, List.append_assoc, ← join_cons] at hyields
    refine .step ?_ hyields
    rw [join_cons]
    cases ending with
    | none =>
      obtain ⟨hne, rfl⟩ := hlast rfl
      rw [join_nil, List.append_nil, source_none]
      exact nextRange?_last hbreak hne
    | some nl =>
      rw [source_some, List.append_assoc, size_append]
      exact nextRange?_terminated hbreak fun hnl => hcr (congrArg some hnl)

end Line

namespace Text

/-- The lines of a text are the one way to cut it at its breaks. Their ranges are what a scan over
the bytes yields; they lie on borders of characters, in order and apart from each other; the lines
and their terminators make up the text; and any lines and terminators that stand next to each other
as in a text are given back by the text they form. -/
theorem lineRanges_decompose (t : Text) :
    Line.Yields (Utf8.encode t) 0 t.lineRanges ∧
      List.Forall₂ (fun r l => Utf8.Slice t r.1 r.2 l) t.lineRanges t.lines ∧
      t.lineRanges.Pairwise (fun r s => r.2 < s.1) ∧
      Line.join (Line.split t) = t ∧ Line.Separated (Line.split t) ∧
      ∀ ls : List Line, Line.Separated ls →
        Line.split (Line.join ls) = ls ∧ (Line.join ls).lines = ls.map Line.text ∧
          (Line.join ls).lineRanges = Line.rangesFrom 0 ls := by
  have hjoin := Line.join_split t
  have hsep := Line.separated_split t
  refine ⟨?_, ?_, Line.pairwise_rangesFrom hsep 0, hjoin, hsep, ?_⟩
  · have hyields := Line.yields_rangesFrom [] hsep
    rwa [List.nil_append, hjoin] at hyields
  · have hslices := Line.forall₂_rangesFrom [] (Line.split t)
    rw [List.nil_append, hjoin] at hslices
    rw [lines, List.forall₂_map_right_iff]
    exact hslices
  · intro ls hls
    rw [lines, lineRanges, Line.split_join hls]
    exact ⟨rfl, rfl, rfl⟩

/-- Every terminator, a carriage return in front of the two together, and a line without one. -/
def mixedLines : List Line :=
  [⟨['é'], some .cr⟩, ⟨[], some .crlf⟩, ⟨['a', ' ', 'b'], some .lf⟩, ⟨[], some .cr⟩, ⟨['z'], none⟩]

theorem lineRanges_decompose_mixedLines :
    Line.join mixedLines = "é\r\r\na b\n\rz".toList ∧ Line.Separated mixedLines ∧
      Line.split (Line.join mixedLines) = mixedLines ∧
      (Line.join mixedLines).lineRanges = [(0, 2), (3, 3), (5, 8), (9, 9), (10, 11)] := by
  have hsep : Line.Separated mixedLines := by decide
  obtain ⟨-, -, -, -, -, hunique⟩ := lineRanges_decompose (Line.join mixedLines)
  obtain ⟨hsplit, -, hranges⟩ := hunique mixedLines hsep
  exact ⟨by decide, hsep, hsplit, hranges.trans (by decide)⟩

end Text

end DocLint
