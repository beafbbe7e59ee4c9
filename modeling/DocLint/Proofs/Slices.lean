import DocLint.Proofs.CodeBlocks
import DocLint.Proofs.LineRanges

/-!
# The lines of a slice

A slice of a text is split into lines again. If it begins at no line feed that belongs to the
carriage return before it, and does not end with a break, its lines are those of the text: the first
cut where the slice begins, the last cut where it ends, and whole lines between them.
-/

namespace DocLint

/-! ## Positions -/

namespace Text

/-- The byte at which a line starts, and the end of the text for a position without a line. -/
def lineStart (t : Text) (i : Nat) : Nat :=
  ((t.lineRanges[i]?).map Prod.fst).getD (Utf8.size t)

/-- The byte at which a line ends, in front of its terminator. -/
def lineStop (t : Text) (i : Nat) : Nat :=
  ((t.lineRanges[i]?).map Prod.snd).getD (Utf8.size t)

/-- The byte at `pos` belongs to line `i` or to its terminator. -/
def OnLine (t : Text) (pos i : Nat) : Prop :=
  t.lineStart i ≤ pos ∧ pos < t.lineStart (i + 1)

instance (t : Text) (pos i : Nat) : Decidable (t.OnLine pos i) :=
  inferInstanceAs (Decidable (t.lineStart i ≤ pos ∧ pos < t.lineStart (i + 1)))

/-- The byte at `pos` is a line feed that belongs to the carriage return before it. -/
def CutsBreak (t : Text) (pos : Nat) : Prop :=
  ∃ u v, t = u ++ '\r' :: '\n' :: v ∧ Utf8.size u + 1 = pos

/-- The number of lines without the breaks at the end, but at least one. -/
def lineSpan (t : Text) : Nat :=
  max 1 (dropEnd Line.isBreak t).lines.length

end Text

namespace Line

open Text.Utf8

theorem getElem?_rangesFrom (start : Nat) (ls : List Line) (i : Nat) :
    (rangesFrom start ls)[i]? = (ls[i]?).map fun l =>
      (start + size (join (ls.take i)), start + size (join (ls.take i)) + size l.text) := by
  induction ls generalizing start i with
  | nil => rfl
  | cons l ls ih =>
    cases i with
    | zero => rfl
    | succ i =>
      rw [rangesFrom, List.getElem?_cons_succ, List.getElem?_cons_succ, ih, List.take_succ_cons,
        join_cons, size_append]
      simp only [Nat.add_assoc]

theorem lineStart_eq (t : Text) (i : Nat) : t.lineStart i = size (join ((split t).take i)) := by
  rw [Text.lineStart, Text.lineRanges, getElem?_rangesFrom]
  by_cases hi : i < (split t).length
  · rw [List.getElem?_eq_getElem hi]
    exact Nat.zero_add _
  · rw [List.getElem?_eq_none (Nat.le_of_not_lt hi), List.take_of_length_le (Nat.le_of_not_lt hi),
      join_split]
    rfl

theorem lineStop_eq {t : Text} {i : Nat} {l : Line} (hl : (split t)[i]? = some l) :
    t.lineStop i = t.lineStart i + size l.text := by
  rw [lineStart_eq, Text.lineStop, Text.lineRanges, getElem?_rangesFrom, hl]
  simp

theorem join_take_succ {ls : List Line} {i : Nat} {l : Line} (hl : ls[i]? = some l) :
    join (ls.take (i + 1)) = join (ls.take i) ++ l.source := by
  rw [List.take_add_one, hl, join_append]
  simp

theorem drop_eq_cons {ls : List Line} {i : Nat} {l : Line} (hl : ls[i]? = some l) :
    ls.drop i = l :: ls.drop (i + 1) := by
  obtain ⟨hlen, rfl⟩ := List.getElem?_eq_some_iff.mp hl
  exact List.drop_eq_getElem_cons hlen

theorem eq_join_of_getElem? {t : Text} {i : Nat} {l : Line} (hl : (split t)[i]? = some l) :
    t = join ((split t).take i) ++ (l.source ++ join ((split t).drop (i + 1))) := by
  conv_lhs => rw [← join_split t, ← List.take_append_drop (i + 1) (split t)]
  rw [join_append, join_take_succ hl, List.append_assoc]

/-- A line stands between its start and its stop. -/
theorem slice_of_getElem? {t text : Text} {i : Nat} (h : t.lines[i]? = some text) :
    Slice t (t.lineStart i) (t.lineStop i) text := by
  rw [Text.lines, List.getElem?_map, Option.map_eq_some_iff] at h
  obtain ⟨l, hl, rfl⟩ := h
  refine ⟨join ((split t).take i),
    (l.ending.map Terminator.text).getD [] ++ join ((split t).drop (i + 1)),
    (eq_join_of_getElem? hl).trans ?_, (lineStart_eq t i).symm, (lineStop_eq hl).symm⟩
  rw [source, List.append_assoc]

theorem exists_of_onLine {t : Text} {pos i : Nat} (h : t.OnLine pos i) :
    ∃ l, (split t)[i]? = some l := by
  obtain ⟨hle, hlt⟩ := h
  rw [lineStart_eq] at hle hlt
  cases hl : (split t)[i]? with
  | some l => exact ⟨l, rfl⟩
  | none =>
    have hlen : (split t).length ≤ i := List.getElem?_eq_none_iff.mp hl
    rw [List.take_of_length_le hlen] at hle
    rw [List.take_of_length_le (by omega)] at hlt
    omega

/-! ## Parts of separated lines -/

theorem head?_ne_of_prefix {s t : Text} (h : s <+: t) {c : Char} (ht : t.head? ≠ some c) :
    s.head? ≠ some c := by
  obtain ⟨r, rfl⟩ := h
  cases s with
  | nil => nofun
  | cons d ds => exact ht

theorem Separated.isBreak_of_mem {ls : List Line} (h : Separated ls) {l : Line} (hl : l ∈ ls)
    {c : Char} (hc : c ∈ l.text) : isBreak c = false := by
  induction ls with
  | nil => cases hl
  | cons m ms ih =>
    rcases List.mem_cons.mp hl with rfl | hl
    · exact h.1 c hc
    · exact ih h.2.2.2 hl

theorem Separated.drop {ls : List Line} (h : Separated ls) (n : Nat) : Separated (ls.drop n) := by
  induction ls generalizing n with
  | nil => rwa [List.drop_nil]
  | cons l ls ih =>
    cases n with
    | zero => exact h
    | succ n => exact ih h.2.2.2 n

/-- Lines may end with any of them. -/
theorem Separated.left {ls ms : List Line} (h : Separated (ls ++ ms)) : Separated ls := by
  induction ls with
  | nil => trivial
  | cons l ls ih =>
    obtain ⟨hbreak, hlast, hcr, hrest⟩ := h
    refine ⟨hbreak, fun hnone => ?_, fun hending => ?_, ih hrest⟩
    · obtain ⟨hne, hnil⟩ := hlast hnone
      exact ⟨hne, (List.append_eq_nil_iff.mp hnil).1⟩
    · exact head?_ne_of_prefix ⟨join ms, (join_append ls ms).symm⟩ (hcr hending)

/-- The first line may be cut off at its front, but not behind its last character if nothing ends
it. -/
theorem Separated.dropFront {p q : Text} {ending : Option Terminator} {ls : List Line}
    (h : Separated (⟨p ++ q, ending⟩ :: ls)) (hq : ending = none → q ≠ []) :
    Separated (⟨q, ending⟩ :: ls) := by
  obtain ⟨hbreak, hlast, hrest⟩ := h
  exact ⟨fun c hc => hbreak c (List.mem_append_right p hc),
    fun hnone => ⟨hq hnone, (hlast hnone).2⟩, hrest⟩

/-- Lines may be cut off inside a line, and that line is then the last. -/
theorem Separated.cutLast {ls ms : List Line} {p q : Text} {ending : Option Terminator}
    (h : Separated (ls ++ ⟨p ++ q, ending⟩ :: ms)) (hp : p ≠ []) :
    Separated (ls ++ [⟨p, none⟩]) := by
  induction ls with
  | nil =>
    obtain ⟨hbreak, -⟩ := h
    exact ⟨fun c hc => hbreak c (List.mem_append_left q hc), fun _ => ⟨hp, rfl⟩, nofun, trivial⟩
  | cons l ls ih =>
    rw [List.cons_append] at h ⊢
    obtain ⟨hbreak, hlast, hcr, hrest⟩ := h
    refine ⟨hbreak, fun hnone => ?_, fun hending => ?_, ih hrest⟩
    · exact absurd (hlast hnone).2 (List.append_ne_nil_of_right_ne_nil ls (List.cons_ne_nil _ ms))
    · refine head?_ne_of_prefix ?_ (hcr hending)
      rw [join_append, join_append, join_cons, join_cons, join_nil, source_none, List.append_nil,
        source, List.append_assoc, List.append_assoc, ← List.append_assoc]
      exact List.prefix_append _ _

/-! ## Texts that are cut -/

/-- A beginning of a line with its terminator stays inside the line, unless it ends between a
carriage return and a line feed. -/
theorem exists_text_eq_of_source {l : Line} {p x : Text} (h : l.source = p ++ x) (hx : x ≠ []) :
    (∃ q, l.text = p ++ q) ∨ p = l.text ++ ['\r'] ∧ x = ['\n'] := by
  rcases List.append_eq_append_iff.mp h with ⟨y, rfl, hy⟩ | ⟨q, hq, -⟩
  · cases y with
    | nil => exact .inl ⟨[], by simp⟩
    | cons c cs =>
      right
      -- Only a carriage return with its line feed can be cut in two.
      cases hending : l.ending with
      | none =>
        rw [hending] at hy
        cases hy
      | some nl =>
        rw [hending] at hy
        cases nl with
        | lf => simp_all [Terminator.text]
        | cr => simp_all [Terminator.text]
        | crlf =>
          obtain ⟨rfl, hrest⟩ := List.cons.inj hy
          rcases List.singleton_eq_append_iff.mp hrest with ⟨rfl, rfl⟩ | ⟨-, rfl⟩
          · exact ⟨rfl, rfl⟩
          · exact absurd rfl hx
  · exact .inl ⟨q, hq⟩

theorem isBreak_of_mem_terminator {ending : Option Terminator} {c : Char}
    (h : c ∈ (ending.map Terminator.text).getD []) : isBreak c = true := by
  have hall : ((ending.map Terminator.text).getD []).all isBreak = true := by
    rcases ending with - | (- | - | -) <;> rfl
  exact List.all_eq_true.mp hall c h

/-- A beginning that ends with no break stays inside the line. -/
theorem exists_text_eq_of_last {l : Line} {p x : Text} (h : l.source = p ++ x)
    (hlast : ∀ c ∈ p.getLast?, isBreak c = false) : ∃ q, l.text = p ++ q := by
  rcases List.append_eq_append_iff.mp h with ⟨y, rfl, hy⟩ | ⟨q, hq, -⟩
  · rcases List.eq_nil_or_concat y with rfl | ⟨ys, c, rfl⟩
    · exact ⟨[], by simp⟩
    · have hmem : c ∈ (l.ending.map Terminator.text).getD [] := by simp [hy]
      have hc := isBreak_of_mem_terminator hmem
      have hnot := hlast c (by simp)
      rw [hc] at hnot
      cases hnot
  · exact ⟨q, hq⟩

/-- A position up to the end of a line and its terminator cuts the text inside of them. -/
theorem exists_source_eq {t u r : Text} {i : Nat} {l : Line} (hl : (split t)[i]? = some l)
    (ht : t = u ++ r) (hle : t.lineStart i ≤ size u) (hle' : size u ≤ t.lineStart (i + 1)) :
    ∃ p x, u = join ((split t).take i) ++ p ∧ l.source = p ++ x ∧
      r = x ++ join ((split t).drop (i + 1)) := by
  rw [lineStart_eq] at hle hle'
  rw [join_take_succ hl, size_append] at hle'
  have hjoin := eq_join_of_getElem? hl
  obtain ⟨p, rfl⟩ : join ((split t).take i) <+: u :=
    prefix_of_size_le ⟨_, hjoin.symm⟩ ⟨r, ht.symm⟩ hle
  rw [size_append] at hle'
  have hrest : p ++ r = l.source ++ join ((split t).drop (i + 1)) := by
    rw [List.append_assoc] at ht
    exact List.append_cancel_left (ht.symm.trans hjoin)
  obtain ⟨x, hx⟩ : p <+: l.source :=
    prefix_of_size_le ⟨r, rfl⟩ ⟨_, hrest.symm⟩ (by omega)
  refine ⟨p, x, rfl, hx.symm, ?_⟩
  rw [← hx, List.append_assoc] at hrest
  exact List.append_cancel_left hrest

/-- What stands behind a position inside a line: the rest of the line, and the lines behind it. -/
theorem split_behind {t u r : Text} {i : Nat} (ht : t = u ++ r) (hi : t.OnLine (size u) i)
    (hcut : ¬t.CutsBreak (size u)) :
    ∃ l p q, (split t)[i]? = some l ∧ l.text = p ++ q ∧ size u = t.lineStart i + size p ∧
      split r = ⟨q, l.ending⟩ :: (split t).drop (i + 1) := by
  obtain ⟨l, hl⟩ := exists_of_onLine hi
  obtain ⟨hle, hlt⟩ := hi
  obtain ⟨p, x, rfl, hx, rfl⟩ := exists_source_eq hl ht hle (Nat.le_of_lt hlt)
  have hne : x ≠ [] := by
    rintro rfl
    rw [lineStart_eq, join_take_succ hl, hx, List.append_nil] at hlt
    exact Nat.lt_irrefl _ hlt
  rcases exists_text_eq_of_source hx hne with ⟨q, hq⟩ | ⟨rfl, rfl⟩
  · have hxq : x = source ⟨q, l.ending⟩ := by
      rw [source, hq, List.append_assoc] at hx
      exact (List.append_cancel_left hx).symm
    have hsep : Separated (⟨p ++ q, l.ending⟩ :: (split t).drop (i + 1)) := by
      rw [← hq, ← drop_eq_cons hl]
      exact (separated_split t).drop i
    refine ⟨l, p, q, hl, hq, ?_, ?_⟩
    · rw [lineStart_eq, size_append]
    · rw [hxq, ← join_cons]
      refine split_join (hsep.dropFront fun hnone => ?_)
      -- The rest of a line without a terminator is the rest of its text.
      rwa [hxq, hnone, source_none] at hne
  · -- The position would lie inside a terminator.
    refine absurd ⟨join ((split t).take i) ++ l.text, join ((split t).drop (i + 1)),
      ht.trans ?_, ?_⟩ hcut
    · simp only [List.append_assoc, List.cons_append, List.nil_append]
    · have hcr : size ['\r'] = 1 := by decide
      rw [size_append, size_append, size_append, hcr]
      omega

/-- What stands in front of a position inside a line: the lines before it, and the beginning of the
line. -/
theorem split_before {r s v : Text} {k : Nat} (hr : r = s ++ v) (hne : s ≠ [])
    (hlast : ∀ c ∈ s.getLast?, isBreak c = false) (hk : r.OnLine (size s - 1) k) :
    ∃ l p q, (split r)[k]? = some l ∧ l.text = p ++ q ∧ size s = r.lineStart k + size p ∧
      split s = (split r).take k ++ [⟨p, none⟩] := by
  have hpos := size_pos hne
  obtain ⟨l, hl⟩ := exists_of_onLine hk
  obtain ⟨hle, hlt⟩ := hk
  obtain ⟨p, x, rfl, hx, -⟩ := exists_source_eq hl hr (by omega) (by omega)
  have hp : p ≠ [] := by
    rintro rfl
    rw [List.append_nil, ← lineStart_eq] at hle hpos
    omega
  obtain ⟨q, hq⟩ := exists_text_eq_of_last hx fun c hc =>
    hlast c (by rw [List.getLast?_append, Option.mem_def.mp hc, Option.some_or]; rfl)
  refine ⟨l, p, q, hl, hq, ?_, ?_⟩
  · rw [lineStart_eq, size_append]
  · have hsep : Separated ((split r).take k ++ ⟨p ++ q, l.ending⟩ :: (split r).drop (k + 1)) := by
      rw [← hq, ← drop_eq_cons hl, List.take_append_drop]
      exact separated_split r
    have hs : join ((split r).take k) ++ p = join ((split r).take k ++ [⟨p, none⟩]) := by
      rw [join_append, join_cons, join_nil, source_none, List.append_nil]
    rw [hs]
    exact split_join (hsep.cutLast hp)

/-! ## Starts of lines -/

theorem lineStart_add_size (t : Text) (i : Nat) :
    t.lineStart i + size (join ((split t).drop i)) = size t := by
  rw [lineStart_eq, ← size_append, ← join_append, List.take_append_drop, join_split]

theorem lineStart_le (t : Text) {i j : Nat} (h : i ≤ j) : t.lineStart i ≤ t.lineStart j := by
  have hi := lineStart_add_size t i
  have hj := lineStart_add_size t j
  have hdrop : (split t).drop i = ((split t).drop i).take (j - i) ++ (split t).drop j := by
    have hj : (split t).drop j = ((split t).drop i).drop (j - i) := by
      rw [List.drop_drop, Nat.add_sub_cancel' h]
    rw [hj, List.take_append_drop]
  rw [hdrop, join_append, size_append] at hi
  omega

section Behind

variable {t u r : Text} {i : Nat} {l : Line} (ht : t = u ++ r)
  (hr : split r = l :: (split t).drop (i + 1))

include ht hr

/-- The lines behind a cut start where they start in the text. -/
theorem lineStart_behind {k : Nat} (hk : 0 < k) :
    t.lineStart (i + k) = size u + r.lineStart k := by
  -- The same lines are left behind both starts.
  have hi := lineStart_add_size t (i + k)
  have hk' := lineStart_add_size r k
  have hdrop : (split r).drop k = (split t).drop (i + k) := by
    obtain ⟨m, rfl⟩ : ∃ m, k = m + 1 := ⟨k - 1, by omega⟩
    rw [hr, List.drop_succ_cons, List.drop_drop]
    congr 1
    omega
  have hsize : size t = size u + size r := by rw [ht, size_append]
  rw [hdrop] at hk'
  omega

/-- The line that is cut starts with the cut. -/
theorem max_lineStart_behind (hi : t.lineStart i ≤ size u) (k : Nat) :
    max (size u) (t.lineStart (i + k)) = size u + r.lineStart k := by
  by_cases hk : k = 0
  · have hzero : r.lineStart 0 = 0 := by
      rw [lineStart_eq]
      rfl
    rw [hk, hzero, Nat.add_zero]
    omega
  · have hstart := lineStart_behind ht hr (Nat.pos_of_ne_zero hk)
    omega

theorem onLine_behind (hi : t.lineStart i ≤ size u) {k pos : Nat}
    (h : t.OnLine (size u + pos) (i + k)) : r.OnLine pos k := by
  obtain ⟨hle, hlt⟩ := h
  have hstart := max_lineStart_behind ht hr hi k
  have hnext := lineStart_behind ht hr (k := k + 1) (by omega)
  rw [Nat.add_assoc] at hlt
  exact ⟨by omega, by omega⟩

end Behind

/-! ## First lines -/

theorem head?_split (t : Text) :
    ((split t).map Line.text).head?.getD [] = t.takeWhile fun c => !isBreak c := by
  fun_induction split t with
  | case1 => rfl
  | case2 cs ih => rfl
  | case3 cs hlf ih => rfl
  | case4 cs ih => rfl
  | case5 c cs hcrlf hcr hlf ih =>
    have hc : isBreak c = false := (isBreak_eq_false_iff c).mpr ⟨hlf, hcr⟩
    rw [List.takeWhile_cons_of_pos (by rw [hc]; rfl), ← ih]
    cases split cs <;> rfl

/-- The first line of a beginning of a text is the first line of the text, as far as it reaches. -/
theorem size_head?_split (s v : Text) :
    size (((split s).map Line.text).head?.getD []) =
      min (size s) (size (((split (s ++ v)).map Line.text).head?.getD [])) := by
  rw [head?_split, head?_split, List.takeWhile_append]
  have hpre := List.takeWhile_prefix (fun c => !isBreak c) (l := s)
  split
  · next hall =>
    rw [hpre.eq_of_length hall, size_append]
    omega
  · obtain ⟨r, hr⟩ := hpre
    have hsize := congrArg size hr
    rw [size_append] at hsize
    omega

/-! ## The lines of a slice -/

/-- A text that ends with no break ends inside the line of its last byte. -/
theorem size_le_lineStop {r s v : Text} {k : Nat} (hr : r = s ++ v) (hne : s ≠ [])
    (hlast : ∀ c ∈ s.getLast?, isBreak c = false) (hk : r.OnLine (size s - 1) k) :
    size s ≤ r.lineStop k := by
  obtain ⟨l, p, q, hl, htext, hsize, -⟩ := split_before hr hne hlast hk
  rw [lineStop_eq hl, htext, size_append]
  omega

section Slice

variable {t u s v q : Text} {i : Nat} {ending : Option Terminator} (ht : t = u ++ (s ++ v))
  (hr : split (s ++ v) = ⟨q, ending⟩ :: (split t).drop (i + 1))

include ht hr

theorem slice_first (hstop : t.lineStop i = size u + size q) :
    Slice t (size u) (min (size u + size s) (t.lineStop i)) (s.lines.head?.getD []) := by
  have hfirst := size_head?_split s v
  rw [hr] at hfirst
  change size (s.lines.head?.getD []) = min (size s) (size q) at hfirst
  have hend : min (size u + size s) (t.lineStop i) = size u + size (s.lines.head?.getD []) := by
    rw [hfirst, hstop]
    omega
  have hpart : Slice t (size u) (size u + size s)
      ((s.takeWhile fun c => !isBreak c) ++ s.dropWhile fun c => !isBreak c) := by
    rw [List.takeWhile_append_dropWhile]
    exact ⟨u, v, ht, rfl, rfl⟩
  rw [hend, Text.lines, head?_split]
  exact hpart.left

variable {p : Text} {k : Nat} (hs : split s = (split (s ++ v)).take k ++ [⟨p, none⟩])

include hs

theorem slice_last (hi : t.lineStart i ≤ size u) :
    Slice t (max (size u) (t.lineStart (i + k))) (size u + size s) (s.lines.getLast?.getD []) := by
  have hjoin : join ((split (s ++ v)).take k) ++ p = s := by
    have hall := join_split s
    rwa [hs, join_append, join_cons, join_nil, source_none, List.append_nil] at hall
  have hpart : Slice t (size u) (size u + size s) (join ((split (s ++ v)).take k) ++ p) := by
    rw [hjoin]
    exact ⟨u, v, ht, rfl, rfl⟩
  have hlast : s.lines.getLast?.getD [] = p := by
    rw [Text.lines, hs, List.map_append, List.map_singleton, List.getLast?_concat]
    rfl
  rw [hlast, max_lineStart_behind ht hr hi k, lineStart_eq]
  exact hpart.right

omit ht

theorem getElem?_lines_slice (hk : k < (split (s ++ v)).length) {n : Nat} (hpos : 0 < n)
    (hn : n < k) : s.lines[n]? = t.lines[i + n]? := by
  obtain ⟨m, rfl⟩ : ∃ m, n = m + 1 := ⟨n - 1, by omega⟩
  have hlen : m + 1 < ((split (s ++ v)).take k).length := by
    rw [List.length_take]
    omega
  rw [Text.lines, Text.lines, List.getElem?_map, List.getElem?_map, hs,
    List.getElem?_append_left hlen, List.getElem?_take_of_lt hn, hr, List.getElem?_cons_succ,
    List.getElem?_drop]
  congr 2
  omega

end Slice

/-! ## Spans -/

theorem length_lines_dropEnd {ls : List Line} (h : Separated ls) :
    (Text.dropEnd isBreak (join ls)).lines.length =
      (ls.rdropWhile fun l => l.text.isEmpty).length := by
  -- From the end, where both sides drop.
  induction ls using List.reverseRecOn with
  | nil => rfl
  | append_singleton ls l ih =>
    have hending : ∀ c ∈ (l.ending.map Terminator.text).getD [], isBreak c = true :=
      fun c hc => isBreak_of_mem_terminator hc
    have hjoin : join (ls ++ [l]) =
        (join ls ++ l.text) ++ (l.ending.map Terminator.text).getD [] := by
      rw [join_append, join_cons, join_nil, List.append_nil, source, List.append_assoc]
    rw [hjoin, Text.dropEnd_append hending]
    cases htext : l.text with
    | nil =>
      -- An empty line is one more break behind the lines before it.
      rw [List.append_nil, List.rdropWhile_concat_pos _ _ _ (by rw [htext]; rfl)]
      exact ih h.left
    | cons c cs =>
      rw [← htext]
      have hne : l.text ≠ [] := htext ▸ List.cons_ne_nil c cs
      have hlast : Text.dropEnd isBreak (join ls ++ l.text) = join ls ++ l.text := by
        refine Text.dropEnd_of_getLast? fun d hd => ?_
        rw [List.getLast?_append_of_ne_nil _ hne] at hd
        exact h.isBreak_of_mem (List.mem_append_right ls List.mem_cons_self)
          (List.mem_of_getLast? hd)
      have hlines : join ls ++ l.text = join (ls ++ [⟨l.text, none⟩]) := by
        rw [join_append, join_cons, join_nil, source_none, List.append_nil]
      have hsep : Separated (ls ++ [⟨l.text, none⟩]) := by
        have hcut : Separated (ls ++ [⟨l.text ++ [], l.ending⟩]) := by rwa [List.append_nil]
        exact hcut.cutLast hne
      rw [hlast, hlines, Text.lines, split_join hsep,
        List.rdropWhile_concat_neg _ _ _ (by rw [htext]; exact Bool.false_ne_true)]
      simp

end Line

namespace Markdown

/-- Empty lines at the end of a text are breaks at its end. -/
theorem spanOf_lines (t : Text) : spanOf t.lines = t.lineSpan := by
  have hlen := Line.length_lines_dropEnd (Line.separated_split t)
  rw [Line.join_split] at hlen
  rw [Text.lineSpan, hlen, spanOf, Text.lines, ← List.map_reverse, List.dropWhile_map,
    List.length_map, List.rdropWhile, List.length_reverse]
  rfl

/-- Whole lines, the first of them perhaps cut at its front, are the lines of a slice. -/
theorem exists_slice_of_lines {t p q : Text} {i j : Nat} {l : Line} (hij : i ≤ j)
    (hl : (Line.split t)[i]? = some l) (htext : l.text = p ++ q) (hq : l.text ≠ [] → q ≠ []) :
    ∃ a s, t.OnLine a i ∧ Text.Utf8.Slice t a (t.lineStart (j + 1)) s ∧
      s.lines = q :: sourceLines t.lines (i + 1) j := by
  let ls := ((Line.split t).drop (i + 1)).take (j - i)
  have hrest : ls ++ (Line.split t).drop (j + 1) = (Line.split t).drop (i + 1) := by
    have hdrop : (Line.split t).drop (j + 1) = ((Line.split t).drop (i + 1)).drop (j - i) := by
      rw [List.drop_drop]
      congr 1
      omega
    rw [hdrop, List.take_append_drop]
  have hsep : Line.Separated (⟨q, l.ending⟩ :: ls) := by
    have hall := (Line.separated_split t).drop i
    rw [Line.drop_eq_cons hl, ← hrest, ← List.cons_append] at hall
    have hlast := hall.left.2.1
    have hcut : Line.Separated (⟨p ++ q, l.ending⟩ :: ls) := htext ▸ hall.left
    exact hcut.dropFront fun hnone => hq (hlast hnone).1
  have hsource : l.source = p ++ Line.source ⟨q, l.ending⟩ := by
    rw [Line.source, Line.source, htext, List.append_assoc]
  have ht := Line.eq_join_of_getElem? hl
  rw [hsource, ← hrest, Line.join_append] at ht
  have hstart := Line.lineStart_eq t i
  have hsize := Line.lineStart_add_size t (j + 1)
  refine ⟨t.lineStart i + Text.Utf8.size p, Line.join (⟨q, l.ending⟩ :: ls), ⟨?_, ?_⟩, ?_, ?_⟩
  · omega
  · have hne : Line.source ⟨q, l.ending⟩ ≠ [] :=
      Line.source_ne_nil fun hnone => (hsep.2.1 hnone).1
    have hpos := Text.Utf8.size_pos hne
    rw [Line.lineStart_eq t (i + 1), Line.join_take_succ hl, hsource, Text.Utf8.size_append,
      Text.Utf8.size_append]
    omega
  · refine ⟨Line.join ((Line.split t).take i) ++ p, Line.join ((Line.split t).drop (j + 1)),
      ht.trans ?_, ?_, ?_⟩
    · rw [Line.join_cons]
      simp only [List.append_assoc]
    · rw [Text.Utf8.size_append]
      omega
    · have hall := congrArg Text.Utf8.size ht
      rw [Line.join_cons]
      simp only [Text.Utf8.size_append] at hall ⊢
      omega
  · rw [Text.lines, Line.split_join hsep, List.map_cons, sourceLines, Text.lines, List.map_take,
      List.map_drop]
    congr 2
    omega

/-- A node begins with its first line, or with the fence on it. -/
theorem exists_source_eq_cons {t : Text} {n : Node} (hn : n ∈ nodes t) :
    ∃ p q, (readLines t)[n.first]? = some (p ++ q) ∧ (p ++ q ≠ [] → q ≠ []) ∧
      n.source (readLines t) = q :: sourceLines (readLines t) (n.first + 1) n.last := by
  obtain ⟨hle, hlt⟩ := (follows_nodes t).mem hn
  obtain ⟨l, hl⟩ : ∃ l, (readLines t)[n.first]? = some l :=
    ⟨_, List.getElem?_eq_getElem (by omega)⟩
  have hcons := sourceLines_eq_cons hle hl
  have hcode := codeIn_nodes t n hn
  unfold Node.source
  simp only [hcons]
  split
  · next heq =>
    obtain ⟨rfl, rfl⟩ := List.cons.inj heq
    obtain ⟨marker, size, hfenced⟩ := hcode
    obtain ⟨opening, hopening, hopens⟩ := hfenced.opens
    obtain rfl : l = opening := Option.some.inj (hl.symm.trans hopening)
    refine ⟨l.takeWhile isSpaceOrTab, l.dropWhile isSpaceOrTab, ?_, fun _ hnil => ?_, rfl⟩
    · rw [List.takeWhile_append_dropWhile, hl]
    · -- The line has a fence behind its spaces.
      have hblank : Text.isBlank l = true := (Text.isBlank_iff l).mpr fun c hc =>
        isWhite_of_isSpaceOrTab (List.dropWhile_eq_nil_iff.mp hnil c hc)
      rw [hopens.isBlank] at hblank
      cases hblank
  · exact ⟨[], l, hl, id, rfl⟩

/-- A block is what its slice of the text makes of it: the first line and the span are those of
the lines from the beginning of the node to the end of its last line. -/
theorem exists_slice_of_node {t : Text} (hmark : t.hasMark = false) {n : Node} (hn : n ∈ nodes t) :
    ∃ a s, t.OnLine a n.first ∧ Text.Utf8.Slice t a (t.lineStart (n.last + 1)) s ∧
      n.source (readLines t) = s.lines := by
  have hlines : readLines t = t.lines := by
    rw [readLines, Text.withoutMark_of_hasMark hmark, Text.withoutMark_of_hasMark hmark]
  obtain ⟨hle, -⟩ := (follows_nodes t).mem hn
  obtain ⟨p, q, hl, hq, hsource⟩ := exists_source_eq_cons hn
  rw [hlines] at hl hsource ⊢
  rw [Text.lines, List.getElem?_map, Option.map_eq_some_iff] at hl
  obtain ⟨l, hl, htext⟩ := hl
  obtain ⟨a, s, ha, hs, hsl⟩ := exists_slice_of_lines hle hl htext (htext ▸ hq)
  exact ⟨a, s, ha, hs, hsource.trans hsl.symm⟩

section Slices

variable {t s : Text} {a b i j : Nat}

theorem le_of_onLine (hab : a < b) (hi : t.OnLine a i) (hj : t.OnLine (b - 1) j) : i ≤ j := by
  by_contra hlt
  have hle := Line.lineStart_le t (show j + 1 ≤ i by omega)
  have hstart := hi.1
  have hstop := hj.2
  omega

/-- A slice that begins at no line feed of a carriage return, and that ends with no break, has the
lines of the text from its first to its last byte: the first one from the beginning of the slice on,
the last one up to its end, and all of every line between them. -/
theorem lines_slice (hslice : Text.Utf8.Slice t a b s) (hab : a < b) (hcut : ¬t.CutsBreak a)
    (hlast : ∀ c ∈ s.getLast?, Line.isBreak c = false) (hi : t.OnLine a i)
    (hj : t.OnLine (b - 1) j) :
    s.lineSpan = j - i + 1 ∧ s.lines.length = j - i + 1 ∧
      Text.Utf8.Slice t a (min b (t.lineStop i)) (s.lines.head?.getD []) ∧
      (∀ r, 0 < r → r < j - i → s.lines[r]? = t.lines[i + r]?) ∧
      b ≤ t.lineStop j ∧
      Text.Utf8.Slice t (max a (t.lineStart j)) b (s.lines.getLast?.getD []) := by
  obtain ⟨k, rfl⟩ : ∃ k, j = i + k := ⟨j - i, by have hij := le_of_onLine hab hi hj; omega⟩
  obtain ⟨u, v, ht, rfl, rfl⟩ := hslice
  have hne : s ≠ [] := by
    rintro rfl
    exact absurd hab (Nat.lt_irrefl _)
  have hpos := Text.Utf8.size_pos hne
  -- The text is cut where the slice begins, and what is left where the slice ends.
  obtain ⟨l, p, q, hl, htext, hu, hr⟩ := Line.split_behind ht hi hcut
  have hk : (s ++ v).OnLine (Text.Utf8.size s - 1) k := by
    refine Line.onLine_behind ht hr hi.1 ?_
    rwa [← Nat.add_sub_assoc hpos]
  obtain ⟨m, p', -, hm, -, -, hs⟩ := Line.split_before rfl hne hlast hk
  have hlt : k < (Line.split (s ++ v)).length := (List.getElem?_eq_some_iff.mp hm).1
  have hlen : s.lines.length = k + 1 := by
    rw [Text.lines, hs, List.length_map, List.length_append, List.length_take,
      List.length_singleton]
    omega
  have hend : Text.Utf8.size (u ++ s) = Text.Utf8.size u + Text.Utf8.size s :=
    Text.Utf8.size_append u s
  refine ⟨?_, ?_, ?_, ?_, ?_, Line.slice_last ht hr hs hi.1⟩
  · rw [Text.lineSpan, Text.dropEnd_of_getLast? hlast, hlen]
    omega
  · omega
  · refine Line.slice_first ht hr ?_
    rw [Line.lineStop_eq hl, htext, Text.Utf8.size_append]
    omega
  · intro r hr0 hrk
    exact Line.getElem?_lines_slice hr hs hlt hr0 (by omega)
  · rw [← hend]
    refine Line.size_le_lineStop (by rw [ht, List.append_assoc])
      (List.append_ne_nil_of_right_ne_nil u hne) ?_ (by rwa [hend])
    rwa [List.getLast?_append_of_ne_nil u hne]

end Slices

/-- The reader of Markdown and the index of a text without a byte order mark know the same lines.
Whatever slice is taken of the text, if it begins at no line feed of a carriage return and ends with
no break, it has the lines of the index from the line of its first byte to that of its last byte:
the first one from the beginning of the slice on, the last one up to its end, and all of every line
between them. The blocks of the text take their first lines and their spans from such slices. -/
theorem slices_agree_with_index (t : Text) (hmark : t.hasMark = false) :
    let x := LineIndex.ofText t
    (∀ i l, x.line? i = some l → Text.Utf8.Slice t (t.lineStart i) (t.lineStop i) l) ∧
      (∀ (s : Text) (a b i j : Nat), Text.Utf8.Slice t a b s → a < b → ¬t.CutsBreak a →
        (∀ c ∈ s.getLast?, Line.isBreak c = false) → t.OnLine a i → t.OnLine (b - 1) j →
        i ≤ j ∧ spanOf s.lines = j - i + 1 ∧ s.lineSpan = j - i + 1 ∧ s.lines.length = j - i + 1 ∧
          Text.Utf8.Slice t a (min b (t.lineStop i)) (s.lines.head?.getD []) ∧
          (∀ r, 0 < r → r < j - i → s.lines[r]? = x.line? (i + r)) ∧
          b ≤ t.lineStop j ∧
          Text.Utf8.Slice t (max a (t.lineStart j)) b (s.lines.getLast?.getD [])) ∧
      List.Forall₂ (fun n b => ∃ a s, t.OnLine a n.first ∧
          Text.Utf8.Slice t a (t.lineStart (n.last + 1)) s ∧
          b.anchor = s.lines.head?.getD [] ∧ b.span = s.lineSpan)
        (nodes t) (blocks t) := by
  intro x
  have hx : x = ⟨t.lines⟩ := by
    change LineIndex.mk t.withoutMark.lines = _
    rw [Text.withoutMark_of_hasMark hmark]
  rw [hx]
  refine ⟨fun i l hl => ?_, fun s a b i j hslice hab hcut hlast hi hj => ?_, ?_⟩
  · exact Line.slice_of_getElem? hl
  · obtain ⟨hspan, hrest⟩ := lines_slice hslice hab hcut hlast hi hj
    exact ⟨le_of_onLine hab hi hj, (spanOf_lines s).trans hspan, hspan, hrest⟩
  · rw [blocks_eq, List.forall₂_map_right_iff, List.forall₂_same]
    intro n hn
    obtain ⟨a, s, ha, hs, hsource⟩ := exists_slice_of_node hmark hn
    refine ⟨a, s, ha, hs, ?_, ?_⟩
    · rw [← hsource]
      rfl
    · rw [← spanOf_lines, ← hsource]
      rfl

/-- Lines that end with two characters each, an empty one among them. -/
def pairText : Text :=
  "# é\r\nb\r\n\r\nc d".toList

/-- The part of `pairText` from its third byte up to its last two. -/
def pairSlice : Text :=
  "é\r\nb\r\n\r\nc".toList

theorem slices_agree_with_index_pairText :
    pairText.hasMark = false ∧ Text.Utf8.Slice pairText 2 12 pairSlice ∧ ¬pairText.CutsBreak 2 ∧
      (∀ c ∈ pairSlice.getLast?, Line.isBreak c = false) ∧ pairText.OnLine 2 0 ∧
      pairText.OnLine 11 3 ∧ spanOf pairSlice.lines = 4 ∧
      Text.Utf8.Slice pairText 2 4 (pairSlice.lines.head?.getD []) ∧
      pairSlice.lines[2]? = (LineIndex.ofText pairText).line? 2 ∧
      Text.Utf8.Slice pairText 11 12 (pairSlice.lines.getLast?.getD []) := by
  have hslice : Text.Utf8.Slice pairText 2 12 pairSlice := ⟨['#', ' '], [' ', 'd'], by decide⟩
  have hcut : ¬pairText.CutsBreak 2 := by
    rintro ⟨u, v, htext, hsize⟩
    match u, htext, hsize with
    | [], _, hsize => cases hsize
    | [c], htext, _ =>
      have hreturn : pairText[1]? = some '\r' := by rw [htext]; rfl
      exact absurd hreturn (by decide)
    | c :: d :: u, _, hsize =>
      have hc := Text.Utf8.charSize_pos c
      have hd := Text.Utf8.charSize_pos d
      rw [Text.Utf8.size_cons, Text.Utf8.size_cons] at hsize
      omega
  have hlast : ∀ c ∈ pairSlice.getLast?, Line.isBreak c = false := by
    rintro c ⟨rfl⟩
    rfl
  have hi : pairText.OnLine 2 0 := by decide
  have hj : pairText.OnLine 11 3 := by decide
  obtain ⟨-, hslices, -⟩ := slices_agree_with_index pairText rfl
  obtain ⟨-, hspan, -, -, hfirst, hbetween, -, hend⟩ :=
    hslices pairSlice 2 12 0 3 hslice (by decide) hcut hlast hi hj
  rw [show min 12 (pairText.lineStop 0) = 4 by decide] at hfirst
  rw [show max 2 (pairText.lineStart 3) = 11 by decide] at hend
  exact ⟨rfl, hslice, hcut, hlast, hi, hj, hspan, hfirst, hbetween 2 (by decide) (by decide), hend⟩

end Markdown

end DocLint
