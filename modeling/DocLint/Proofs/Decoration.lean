import DocLint.Decoration
import DocLint.Proofs.Text

/-!
# What stripping keeps

`strip` looks at a line only after trimming it, leaves nothing of a blank line, and what it leaves
stands in the line as it is: stripping drops characters at both ends and changes none. Behind a byte
order mark it drops white space at the end only.
-/

namespace DocLint.Decoration

theorem strip_eq_of_trim_eq {s t : Text} (h : Text.trim s = Text.trim t) : strip s = strip t := by
  simp only [strip, h]

theorem strip_of_isBlank {t : Text} (h : Text.isBlank t = true) : strip t = [] := by
  have ht : Text.trim t = Text.trim [] := by
    rw [(Text.trim_eq_nil_iff t).mpr h]
    rfl
  rw [strip_eq_of_trim_eq ht]
  rfl

/-! ## The parts that are dropped -/

theorem dropQuotes_skip_isSuffix (t : Text) : dropQuotes.skip t <:+ t := by
  induction t with
  | nil => exact List.suffix_rfl
  | cons c cs ih =>
    rw [dropQuotes.skip]
    split
    · exact ih.trans (List.suffix_cons c cs)
    · split
      · exact ih.trans (List.suffix_cons c cs)
      · exact List.suffix_rfl

theorem dropQuotes_isSuffix (t : Text) : dropQuotes t <:+ t := by
  cases t with
  | nil => exact List.suffix_rfl
  | cons c cs =>
    rw [dropQuotes]
    split
    · exact (dropQuotes_skip_isSuffix cs).trans (List.suffix_cons c cs)
    · exact List.suffix_rfl

theorem dropClosingHashes_isPrefix (t : Text) : dropClosingHashes t <+: t := by
  have htrim : Text.trimEnd t <+: t := Text.dropEnd_isPrefix _ t
  have hwithout : Text.dropEnd (· == '#') (Text.trimEnd t) <+: t :=
    (Text.dropEnd_isPrefix _ _).trans htrim
  rw [dropClosingHashes]
  split
  · exact hwithout
  · split
    · exact (Text.dropEnd_isPrefix _ _).trans hwithout
    · exact htrim

theorem dropListMarker_isSuffix (t : Text) : dropListMarker t <:+ t := by
  cases t with
  | nil => exact List.suffix_rfl
  | cons c rest =>
    simp only [dropListMarker]
    split
    · split
      · exact List.suffix_cons c rest
      · exact List.suffix_rfl
    · split
      · next d after hdrop =>
        have hafter : after <:+ c :: rest :=
          (List.suffix_cons d after).trans (hdrop ▸ List.dropWhile_suffix Text.isDigit)
        split
        · exact hafter
        · exact List.suffix_rfl
      · exact List.suffix_rfl

theorem strip_isInfix_trim (t : Text) : strip t <:+: Text.trim t := by
  have hrest : dropQuotes (Text.trim t) <:+: Text.trim t := (dropQuotes_isSuffix _).isInfix
  simp only [strip]
  split
  · split
    · -- A heading: the hashes go at the front, then what closes it at the end.
      have hwords : Text.trimStart ((dropQuotes (Text.trim t)).dropWhile (· == '#')) <:+:
          Text.trim t :=
        ((List.dropWhile_suffix _).trans (List.dropWhile_suffix _)).isInfix.trans hrest
      exact (dropClosingHashes_isPrefix _).isInfix.trans hwords
    · exact hrest
  · exact (Text.trim_isInfix _).trans ((dropListMarker_isSuffix _).isInfix.trans hrest)

/-! ## Behind a byte order mark -/

/-- A byte order mark is neither white space nor markup, so it keeps the markup behind it. -/
theorem strip_mark_cons (t : Text) :
    strip (Text.byteOrderMark :: t) = Text.trimEnd (Text.byteOrderMark :: t) := by
  have hmark : Text.isWhite Text.byteOrderMark = false := by decide
  have hdigit : Text.isDigit Text.byteOrderMark = false := by decide
  obtain ⟨r, hr⟩ := Text.exists_trimEnd_cons hmark t
  have hlist : dropListMarker (Text.byteOrderMark :: r) = Text.byteOrderMark :: r := by
    unfold dropListMarker
    rw [List.takeWhile_cons_of_neg (Bool.eq_false_iff.mp hdigit),
      List.dropWhile_cons_of_neg (Bool.eq_false_iff.mp hdigit)]
    rfl
  have hwords : strip (Text.byteOrderMark :: t) =
      Text.trim (dropListMarker (Text.byteOrderMark :: r)) := by
    rw [strip, Text.trim_cons hmark, hr]
    rfl
  rw [hwords, hlist, Text.trim_cons hmark, ← hr]
  exact List.rdropWhile_idempotent _ _

theorem trim_isInfix_strip_mark_cons (t : Text) :
    Text.trim t <:+: strip (Text.byteOrderMark :: t) := by
  have hsplit : Text.byteOrderMark :: t =
      (Text.byteOrderMark :: t.takeWhile Text.isWhite) ++ Text.trimStart t := by
    rw [Text.trimStart, List.cons_append, List.takeWhile_append_dropWhile]
  rw [strip_mark_cons, hsplit]
  exact (Text.trimEnd_isSuffix_append _ _).isInfix

end DocLint.Decoration
