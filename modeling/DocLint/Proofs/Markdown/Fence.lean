import DocLint.Proofs.Markdown.Outline

/-!
# Fence lines

Which lines open and close fenced code, said of their characters: `OpensFence` and `ClosesFence`.
The reader of a document decides exactly these. Blocks see only the lines of a node and look for
enough markers with white space around them: `LooksClosing`, which accepts more lines.
-/

namespace DocLint.Markdown

/-! ## Indentation -/

/-- A tab reaches to the next tab stop, and is used up a column at a time. -/
theorem Cursor.space?_tab {cs : Text} {column : Nat} (used : Nat)
    (h : column % tabSize ≠ tabSize - 1) :
    space? ⟨'\t' :: cs, column, used⟩ = some ⟨'\t' :: cs, column + 1, used + 1⟩ := by
  simp only [space?, if_neg h]

theorem Cursor.space?_eq_none {c : Char} {cs : Text} (column used : Nat) (hspace : c ≠ ' ')
    (htab : c ≠ '\t') : space? ⟨c :: cs, column, used⟩ = none := by
  unfold space?
  split
  · next heq => exact absurd (List.cons.inj heq).1 hspace
  · next heq => exact absurd (List.cons.inj heq).1 htab
  · rfl

/-- Before the first tab stop, only spaces are moved over: a tab reaches too far. -/
theorem Cursor.rest_skipUpTo (n : Nat) (p : Cursor) (h : p.column + n < tabSize) :
    (p.skipUpTo n).rest = p.rest.drop (min n (p.rest.takeWhile (· == ' ')).length) := by
  induction n generalizing p with
  | zero => rw [Nat.zero_min, List.drop_zero, skipUpTo]
  | succ n ih =>
    obtain ⟨rest, column, used⟩ := p
    replace h : column + (n + 1) < tabSize := h
    cases rest with
    | nil => rfl
    | cons c cs =>
      by_cases hspace : c = ' '
      · subst hspace
        have hnext := ih ⟨cs, column + 1, 0⟩ (by show column + 1 + n < tabSize; omega)
        show (skipUpTo n ⟨cs, column + 1, 0⟩).rest = _
        rw [hnext, List.takeWhile_cons_of_pos (by decide), List.length_cons,
          Nat.add_min_add_right, List.drop_succ_cons]
      · have hnone : (c :: cs).takeWhile (· == ' ') = [] :=
          List.takeWhile_cons_of_neg (by rwa [beq_iff_eq])
        show _ = (c :: cs).drop (min (n + 1) ((c :: cs).takeWhile (· == ' ')).length)
        rw [hnone, List.length_nil, Nat.min_zero, List.drop_zero]
        by_cases htab : c = '\t'
        · -- A tab reaches to column four, so three columns only go into it.
          subst htab
          have hstop : column % tabSize ≠ tabSize - 1 := by
            simp only [tabSize] at h ⊢
            omega
          have hnext := ih ⟨'\t' :: cs, column + 1, used + 1⟩
            (by show column + 1 + n < tabSize; omega)
          rw [skipUpTo, space?_tab used hstop]
          show (skipUpTo n ⟨'\t' :: cs, column + 1, used + 1⟩).rest = _
          rw [hnext]
          show ('\t' :: cs).drop (min n (('\t' :: cs).takeWhile (· == ' ')).length) = _
          rw [hnone, List.length_nil, Nat.min_zero, List.drop_zero]
        · rw [skipUpTo, space?_eq_none column used hspace htab]

/-- A line is at most three spaces and what stands behind the indentation. -/
theorem Cursor.exists_afterIndent (l : Text) :
    ∃ k ≤ 3, l = List.replicate k ' ' ++ (ofLine l).afterIndent.rest := by
  have hrest := rest_skipUpTo 3 (ofLine l) (show 0 + 3 < tabSize by decide)
  refine ⟨min 3 (l.takeWhile (· == ' ')).length, Nat.min_le_left _ _, ?_⟩
  have hdrop : (ofLine l).afterIndent.rest =
      l.drop (min 3 (l.takeWhile (· == ' ')).length) := hrest
  generalize hk : min 3 (l.takeWhile (· == ' ')).length = k at *
  have htake : l.take k = List.replicate k ' ' := by
    conv_lhs => rw [← Text.replicate_append_dropWhile ' ' l]
    rw [List.take_append_of_le_length (by rw [List.length_replicate]; omega), List.take_replicate,
      Nat.min_eq_left (by omega)]
  rw [hdrop, ← htake, List.take_append_drop]

theorem Cursor.rest_afterIndent {k : Nat} (hk : k ≤ 3) {t : Text} (ht : t.head? ≠ some ' ') :
    (ofLine (List.replicate k ' ' ++ t)).afterIndent.rest = t := by
  show (skipUpTo 3 (ofLine (List.replicate k ' ' ++ t))).rest = t
  rw [rest_skipUpTo 3 _ (show 0 + 3 < tabSize by decide)]
  show (List.replicate k ' ' ++ t).drop _ = t
  rw [show (ofLine (List.replicate k ' ' ++ t)).rest = List.replicate k ' ' ++ t from rfl,
    Text.takeWhile_replicate_append ' ' k ht, List.length_replicate, Nat.min_eq_right hk,
    List.drop_left' List.length_replicate]

/-! ## Opening and closing lines -/

/-- A line that opens fenced code: at most three spaces, three or more markers, and words about the
code, which hold no backtick if the markers are backticks. -/
def OpensFence (marker : Char) (size : Nat) (l : Text) : Prop :=
  ∃ indent words, indent ≤ 3 ∧ 3 ≤ size ∧ (marker = '`' ∨ marker = '~') ∧
    words.head? ≠ some marker ∧ (marker = '`' → '`' ∉ words) ∧
    l = List.replicate indent ' ' ++ (List.replicate size marker ++ words)

/-- A line that closes fenced code: at most three spaces, no fewer markers than the opening line
has, and then only spaces and tabs. -/
def ClosesFence (marker : Char) (size : Nat) (l : Text) : Prop :=
  ∃ indent width after, indent ≤ 3 ∧ size ≤ width ∧ (∀ c ∈ after, isSpaceOrTab c = true) ∧
    l = List.replicate indent ' ' ++ (List.replicate width marker ++ after)

namespace OpenFence

theorem opensFence_of_read? {l : Text} {f : OpenFence} (h : read? (.ofLine l) = some f) :
    OpensFence f.marker f.size l := by
  obtain ⟨k, hk, hl⟩ := Cursor.exists_afterIndent l
  unfold read? at h
  simp only at h
  split at h
  · next c cs hrest =>
    split at h
    · next hcond =>
      cases h
      simp only [Bool.and_eq_true, Bool.or_eq_true, beq_iff_eq, decide_eq_true_eq,
        Bool.not_eq_true', Bool.and_eq_false_iff, beq_eq_false_iff_ne] at hcond
      refine ⟨k, (Cursor.ofLine l).afterIndent.rest.dropWhile (· == c), hk, hcond.1.2, hcond.1.1,
        Text.head?_dropWhile_ne c _, ?_, ?_⟩
      · intro htick hmem
        rcases hcond.2 with hne | hfree
        · exact hne htick
        · rw [List.contains_eq_mem, decide_eq_false_iff_not] at hfree
          exact hfree hmem
      · rw [Text.replicate_append_dropWhile]
        exact hl
    · cases h
  · cases h

theorem isClosedBy_ofLine_iff {f : OpenFence} (hmarker : f.marker = '`' ∨ f.marker = '~')
    (hsize : 3 ≤ f.size) (l : Text) :
    f.isClosedBy (.ofLine l) = true ↔ ClosesFence f.marker f.size l := by
  unfold isClosedBy
  simp only [Bool.and_eq_true, decide_eq_true_eq, List.all_eq_true]
  constructor
  · rintro ⟨hwidth, hafter⟩
    obtain ⟨k, hk, hl⟩ := Cursor.exists_afterIndent l
    refine ⟨k, _, _, hk, hwidth, hafter, ?_⟩
    rw [Text.replicate_append_dropWhile]
    exact hl
  · rintro ⟨indent, width, after, hindent, hwidth, hafter, rfl⟩
    -- The markers end the indentation, and space ends the markers.
    have hmarkers : (List.replicate width f.marker ++ after).head? ≠ some ' ' := by
      rw [show width = width - 1 + 1 by omega, List.replicate_succ, List.cons_append,
        List.head?_cons]
      rcases hmarker with h | h <;> rw [h] <;> decide
    have hspace : after.head? ≠ some f.marker := by
      cases after with
      | nil => exact nofun
      | cons c cs =>
        rintro ⟨rfl⟩
        have hc := hafter f.marker List.mem_cons_self
        rcases hmarker with h | h <;> rw [h] at hc <;> exact absurd hc (by decide)
    rw [Cursor.rest_afterIndent hindent hmarkers, Text.takeWhile_replicate_append _ _ hspace,
      Text.dropWhile_replicate_append _ _ hspace, List.length_replicate]
    exact ⟨hwidth, hafter⟩

end OpenFence

theorem OpensFence.isClosedBy_iff {f : OpenFence} {opening l : Text}
    (h : OpensFence f.marker f.size opening) :
    f.isClosedBy (.ofLine l) = true ↔ ClosesFence f.marker f.size l := by
  obtain ⟨-, -, -, hsize, hmarker, -⟩ := h
  exact OpenFence.isClosedBy_ofLine_iff hmarker hsize l

/-- Behind its indentation, the line begins with the markers. -/
theorem OpensFence.exists_dropWhile {marker : Char} {size : Nat} {l : Text}
    (h : OpensFence marker size l) :
    ∃ words, words.head? ≠ some marker ∧
      l.dropWhile isSpaceOrTab = List.replicate size marker ++ words := by
  obtain ⟨indent, words, -, hsize, hmarker, hwords, -, rfl⟩ := h
  refine ⟨words, hwords, ?_⟩
  have hspaces : ∀ c ∈ List.replicate indent ' ', isSpaceOrTab c = true := by
    intro c hc
    rw [List.eq_of_mem_replicate hc]
    decide
  rw [List.dropWhile_append_of_pos hspaces, show size = size - 1 + 1 by omega,
    List.replicate_succ, List.cons_append]
  apply List.dropWhile_cons_of_neg
  rcases hmarker with rfl | rfl
  · decide
  · decide

/-- A line opens at most one fence. -/
theorem OpensFence.unique {m m' : Char} {n n' : Nat} {l : Text} (h : OpensFence m n l)
    (h' : OpensFence m' n' l) : m = m' ∧ n = n' := by
  obtain ⟨words, hwords, hdrop⟩ := h.exists_dropWhile
  obtain ⟨words', hwords', hdrop'⟩ := h'.exists_dropWhile
  obtain ⟨-, -, -, hsize, -⟩ := h
  obtain ⟨-, -, -, hsize', -⟩ := h'
  rw [hdrop] at hdrop'
  have hmarker : m = m' := by
    have hhead := congrArg List.head? hdrop'
    rw [show n = n - 1 + 1 by omega, show n' = n' - 1 + 1 by omega, List.replicate_succ,
      List.replicate_succ] at hhead
    exact Option.some.inj hhead
  subst hmarker
  have hrun := congrArg (List.takeWhile (· == m)) hdrop'
  rw [Text.takeWhile_replicate_append _ _ hwords,
    Text.takeWhile_replicate_append _ _ hwords'] at hrun
  exact ⟨rfl, List.replicate_left_injective m hrun⟩

/-! ## What blocks take for a fence -/

/-- A line of white space with enough markers in it, all in one run. -/
def LooksClosing (marker : Char) (size : Nat) (l : Text) : Prop :=
  ∃ before width after, Text.isBlank before = true ∧ size ≤ width ∧ Text.isBlank after = true ∧
    l = before ++ (List.replicate width marker ++ after)

/-- A line whose first characters behind white space are three backticks or three tildes. -/
def LooksOpening (l : Text) : Prop :=
  ['`', '`', '`'] <+: Text.trimStart l ∨ ['~', '~', '~'] <+: Text.trimStart l

/-- A line that begins, behind white space, with a run of three or more markers. -/
def ShowsFence (marker : Char) (size : Nat) (l : Text) : Prop :=
  ∃ words, (marker = '`' ∨ marker = '~') ∧ 3 ≤ size ∧ words.head? ≠ some marker ∧
    Text.trimStart l = List.replicate size marker ++ words

theorem isWhite_of_marker {marker : Char} (h : marker = '`' ∨ marker = '~') :
    Text.isWhite marker = false := by
  rcases h with rfl | rfl <;> decide

theorem ShowsFence.of_replicate {marker : Char} (hmarker : marker = '`' ∨ marker = '~') {size : Nat}
    (hsize : 3 ≤ size) {words : Text} (hwords : words.head? ≠ some marker) :
    ShowsFence marker size (List.replicate size marker ++ words) := by
  refine ⟨words, hmarker, hsize, hwords, ?_⟩
  rw [show size = size - 1 + 1 by omega, List.replicate_succ, List.cons_append]
  exact List.dropWhile_cons_of_neg (Bool.eq_false_iff.mp (isWhite_of_marker hmarker))

theorem LooksOpening.exists_showsFence {l : Text} (h : LooksOpening l) :
    ∃ marker size, ShowsFence marker size l := by
  rcases h with h | h
  · obtain ⟨size, words, hsize, hwords, hl⟩ := Text.exists_run_of_isPrefix (k := 3) h
    exact ⟨'`', size, words, .inl rfl, hsize, hwords, hl⟩
  · obtain ⟨size, words, hsize, hwords, hl⟩ := Text.exists_run_of_isPrefix (k := 3) h
    exact ⟨'~', size, words, .inr rfl, hsize, hwords, hl⟩

theorem LooksClosing.of_closesFence {marker : Char} {size : Nat} {l : Text}
    (h : ClosesFence marker size l) : LooksClosing marker size l := by
  obtain ⟨indent, width, after, -, hwidth, hafter, rfl⟩ := h
  refine ⟨_, width, after, ?_, hwidth, ?_, rfl⟩
  · rw [Text.isBlank_iff]
    intro c hc
    rw [List.eq_of_mem_replicate hc]
    decide
  · rw [Text.isBlank_iff]
    exact fun c hc => isWhite_of_isSpaceOrTab (hafter c hc)

theorem closesFence_iff {marker : Char} (hmarker : marker = '`' ∨ marker = '~') (size : Nat)
    (l : Text) : closesFence marker size l = true ↔ LooksClosing marker size l := by
  unfold closesFence
  simp only [Bool.and_eq_true, decide_eq_true_eq, List.all_eq_true, beq_iff_eq]
  constructor
  · rintro ⟨hwidth, hall⟩
    obtain ⟨before, after, hbefore, hafter, hl⟩ := Text.exists_trim l
    rw [List.eq_replicate_of_mem hall] at hl
    exact ⟨before, _, after, hbefore, hwidth, hafter, hl⟩
  · rintro ⟨before, width, after, hbefore, hwidth, hafter, rfl⟩
    have hmem : ∀ c ∈ List.replicate width marker, Text.isWhite c = false := by
      intro c hc
      rw [List.eq_of_mem_replicate hc]
      exact isWhite_of_marker hmarker
    rw [Text.trim_append hbefore hafter (fun c hc => hmem c (List.mem_of_head? hc))
      fun c hc => hmem c (List.mem_of_getLast? hc), List.length_replicate]
    exact ⟨hwidth, fun c hc => List.eq_of_mem_replicate hc⟩

theorem fenceOf_eq_indented_iff (l : Text) : fenceOf l = .indented ↔ ¬LooksOpening l := by
  unfold fenceOf LooksOpening
  rw [← Text.startsWith_iff_isPrefix, ← Text.startsWith_iff_isPrefix]
  simp only
  split
  · next h => simp [h]
  · next h =>
    split
    · next h' => simp [h']
    · next h' => simp [h, h']

/-- The first line alone decides which fence a block has. -/
theorem exists_codeOf (l : Text) (ls : List Text) :
    ∃ body closed, codeOf (l :: ls) = .code (fenceOf l) body closed := by
  unfold codeOf
  simp only [List.head?_cons, Option.getD_some]
  split
  · exact ⟨_, _, rfl⟩
  · exact ⟨_, _, rfl⟩

/-- Code whose first line begins with a fence lies between it and the last line, if that looks like
a closing fence. -/
theorem codeOf_of_fence {marker : Char} {size : Nat} {opening : Text}
    (h : ShowsFence marker size opening) (ls : List Text) :
    ∃ fence, fence.marker = some marker ∧
      codeOf (opening :: ls) =
        .code fence (if ls.getLast?.any (closesFence marker size) then ls.dropLast else ls)
          (ls.getLast?.any (closesFence marker size)) := by
  obtain ⟨words, hmarker, hsize, hwords, htrim⟩ := h
  -- With three markers written out, the two tests for a fence compute.
  obtain ⟨n, rfl⟩ : ∃ n, size = n + 3 := ⟨size - 3, by omega⟩
  have hwidth : ((Text.trimStart opening).takeWhile (· == marker)).length = n + 3 := by
    rw [htrim, Text.takeWhile_replicate_append marker _ hwords, List.length_replicate]
  have hfence : (fenceOf opening).marker = some marker := by
    unfold fenceOf
    rw [htrim]
    rcases hmarker with rfl | rfl
    · rfl
    · rfl
  refine ⟨fenceOf opening, hfence, ?_⟩
  unfold codeOf
  simp only [List.head?_cons, Option.getD_some, hfence, hwidth]
  cases ls with
  | nil => rfl
  | cons l ls =>
    have hlen : decide (1 < (opening :: l :: ls).length) = true := by
      rw [decide_eq_true_eq, List.length_cons, List.length_cons]
      omega
    have hlast : (opening :: l :: ls).getLast?.getD [] = (l :: ls).getLast?.getD [] := by
      rw [List.getLast?_cons_cons]
    have hany : (l :: ls).getLast?.any (closesFence marker (n + 3)) =
        closesFence marker (n + 3) ((l :: ls).getLast?.getD []) := by
      rw [List.getLast?_eq_some_getLast (List.cons_ne_nil l ls)]
      rfl
    rw [hlen, Bool.true_and, hlast, hany]
    split <;> rfl

end DocLint.Markdown
