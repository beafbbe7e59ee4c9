import Mathlib.Data.List.Induction
import DocLint.Manifest
import DocLint.Proofs.Properties.Split

/-!
# Reading what was written

Reading a property file undoes writing it: the lines are found again, the lines of a definition are
joined to the row of its pieces, and the row is split into key and value. A break costs nothing
because pieces end with an even number of backslashes, so that the one of the break is the odd one.
-/

namespace DocLint

namespace Properties

/-! ## Joining lines -/

theorem continues_append_backslash (t : Text) : continues (t ++ ['\\']) = !continues t := by
  have hcount : ∀ n : Nat, ((n + 1) % 2 == 1) = !(n % 2 == 1) := by
    intro n
    rcases Nat.mod_two_eq_zero_or_one n with h | h
    · rw [h, show (n + 1) % 2 = 1 by omega]
      rfl
    · rw [h, show (n + 1) % 2 = 0 by omega]
      rfl
  simp only [continues, List.reverse_append, List.reverse_singleton, List.singleton_append]
  rw [List.takeWhile_cons_of_pos (by decide), List.length_cons, hcount]

theorem continues_append_of_ne {c : Char} (hc : c ≠ '\\') (t : Text) :
    continues (t ++ [c]) = false := by
  simp only [continues, List.reverse_append, List.reverse_singleton, List.singleton_append]
  rw [List.takeWhile_cons_of_neg (by rw [beq_iff_eq]; exact hc)]
  rfl

/-- Pieces end with an even number of backslashes. -/
theorem continues_textAll {ps : List Piece} (h : ∀ p ∈ ps, p.IsSound) :
    continues (Piece.textAll ps) = false := by
  induction ps using List.reverseRecOn with
  | nil => rfl
  | append_singleton ps p ih =>
    have hps := ih fun q hq => h q (List.mem_append_left [p] hq)
    have hp := h p (List.mem_append_right ps List.mem_cons_self)
    have htext : Piece.textAll (ps ++ [p]) = Piece.textAll ps ++ p.text := by
      rw [Piece.textAll_append, Piece.textAll_cons]
      exact congrArg _ (List.append_nil _)
    rw [htext]
    cases p with
    | plain c => exact continues_append_of_ne hp.1 _
    | escaped c =>
      have hpair : Piece.textAll ps ++ (Piece.escaped c).text =
          (Piece.textAll ps ++ ['\\']) ++ [c] := by
        rw [List.append_assoc]
        rfl
      rw [hpair]
      by_cases hc : c = '\\'
      · rw [hc, continues_append_backslash, continues_append_backslash, hps]
        rfl
      · exact continues_append_of_ne hc _

/-- Pieces that a reader takes as they are: the first is not lost as white space, and if no line is
to be continued there is a first, which does not begin a comment. -/
structure Begins (pending : Option Text) (ps : List Piece) : Prop where
  sound : ∀ p ∈ ps, p.IsSound
  not_white : ∀ p ∈ ps.head?, p.isWhite = false
  not_skipped : pending = none → isSkipped (Piece.textAll ps) = false

namespace Begins

variable {pending : Option Text} {done ps : List Piece}

/-- The first of the pieces decides, so what stands behind them does not matter. -/
theorem trimStart_line (h : Begins pending (done ++ ps)) (g : Gap) {t : Text}
    (ht : ∀ c ∈ t.head?, Text.isWhite c = false) :
    Text.trimStart (g.val ++ (Piece.textAll done ++ t)) = Piece.textAll done ++ t := by
  rw [trimStart_append_of_isGap g.property]
  apply trimStart_of_head
  intro c hc
  cases done with
  | nil => exact ht c hc
  | cons p done =>
    have hp := h.not_white p rfl
    cases p with
    | plain d =>
      cases hc
      exact hp
    | escaped d =>
      cases hc
      decide

/-- Lines end where the pieces end. -/
theorem joinLines_last (h : Begins pending done) (g : Gap) (rest : List Text) :
    joinLines pending ((g.val ++ Piece.textAll done) :: rest) =
      (pending.getD [] ++ Piece.textAll done) :: joinLines none rest := by
  have hall : Begins pending (done ++ []) := by rwa [List.append_nil]
  have hline := hall.trimStart_line g (t := []) fun c hc => nomatch hc
  rw [List.append_nil] at hline
  rw [joinLines, hline, continues_textAll h.sound]
  cases pending with
  | none =>
    rw [h.not_skipped rfl]
    rfl
  | some t => rfl

/-- A break leaves what was read as pending. -/
theorem joinLines_broken (h : Begins pending (done ++ ps)) (g : Gap) (rest : List Text) :
    joinLines pending ((g.val ++ (Piece.textAll done ++ ['\\'])) :: rest) =
      joinLines (some (pending.getD [] ++ Piece.textAll done)) rest := by
  have hsound : ∀ p ∈ done, p.IsSound := fun p hp => h.sound p (List.mem_append_left ps hp)
  have hline := h.trimStart_line g (t := ['\\']) (by rintro c ⟨rfl⟩; decide)
  have hskip : pending = none → isSkipped (Piece.textAll done ++ ['\\']) = false := by
    intro hnone
    have hfirst := h.not_skipped hnone
    match done, hfirst with
    | [], _ => rfl
    | .plain c :: done, hfirst => exact hfirst
    | .escaped c :: done, _ => rfl
  rw [joinLines, hline, continues_append_backslash, continues_textAll hsound, List.dropLast_concat]
  cases pending with
  | none =>
    rw [hskip rfl]
    rfl
  | some t => rfl

end Begins

/-- Lines hold pieces if joining them gives the pieces, whatever pieces already stand in front of
them on the first line. -/
def Holds (ls : List Text) (ps : List Piece) : Prop :=
  ∀ (pending : Option Text) (g : Gap) (done : List Piece) (rest : List Text),
    Begins pending (done ++ ps) →
      joinLines pending (prepend (g.val ++ Piece.textAll done) ls ++ rest) =
        (pending.getD [] ++ Piece.textAll (done ++ ps)) :: joinLines none rest

theorem prepend_prepend (s t : Text) (ls : List Text) :
    prepend s (prepend t ls) = prepend (s ++ t) ls := by
  cases ls with
  | nil => rfl
  | cons l ls => rw [prepend, prepend, prepend, List.append_assoc]

namespace Holds

theorem nil : Holds [[]] [] := by
  intro pending g done rest h
  rw [List.append_nil] at h ⊢
  show joinLines pending ((g.val ++ Piece.textAll done ++ []) :: rest) = _
  rw [List.append_nil]
  exact h.joinLines_last g rest

theorem cons {ls : List Text} {ps : List Piece} (h : Holds ls ps) (p : Piece) :
    Holds (prepend p.text ls) (p :: ps) := by
  intro pending g done rest hbegins
  rw [List.append_cons] at hbegins ⊢
  have htext : g.val ++ Piece.textAll done ++ p.text =
      g.val ++ Piece.textAll (done ++ [p]) := by
    rw [Piece.textAll_append, List.append_assoc, Piece.textAll_cons]
    exact congrArg _ (congrArg _ (List.append_nil _).symm)
  rw [prepend_prepend, htext]
  exact h pending g (done ++ [p]) rest hbegins

/-- A break in front of a piece that is not white space. -/
theorem lineBreak {ls : List Text} {p : Piece} {ps : List Piece} (h : Holds ls (p :: ps))
    (hp : p.isWhite = false) (g : Gap) : Holds (['\\'] :: prepend g.val ls) (p :: ps) := by
  intro pending g' done rest hbegins
  have hafter : Begins (some (pending.getD [] ++ Piece.textAll done)) ([] ++ p :: ps) := by
    refine ⟨fun q hq => hbegins.sound q (List.mem_append_right done hq), ?_, fun h => nomatch h⟩
    rintro q ⟨rfl⟩
    exact hp
  have hrest := h _ g [] rest hafter
  show joinLines pending
    ((g'.val ++ Piece.textAll done ++ ['\\']) :: (prepend g.val ls ++ rest)) = _
  rw [List.append_assoc, hbegins.joinLines_broken]
  rw [show g.val ++ Piece.textAll [] = g.val from List.append_nil _] at hrest
  rw [hrest, List.nil_append, Option.getD_some, Piece.textAll_append done, List.append_assoc]

theorem breakWith {ls : List Text} {p : Piece} {ps : List Piece} (h : Holds ls (p :: ps))
    (hp : p.isWhite = false) (gs : List Gap) : Holds (breakWith gs ls) (p :: ps) := by
  induction gs with
  | nil => exact h
  | cons g gs ih => exact ih.lineBreak hp g

end Holds

/-- Pieces are found again, wherever their row was broken. -/
theorem holds_wrap (breaks : Nat → List Gap) (i : Nat) (ps : List Piece) :
    Holds (wrap breaks i ps) ps := by
  induction ps generalizing i with
  | nil => exact Holds.nil
  | cons p ps ih =>
    have hcons := (ih (i + 1)).cons p
    rw [wrap]
    split
    · exact hcons
    · next hp => exact hcons.breakWith (Bool.eq_false_iff.mpr hp) (breaks i)

/-! ## Definitions -/

theorem Separator.isSound_plain (s : Separator) {c : Char} (hc : c ∈ s.text) :
    (Piece.plain c).IsSound := by
  have hgap : ∀ g : Gap, c ∈ g.val → (Piece.plain c).IsSound := by
    intro g hg
    obtain ⟨hwhite, hbreak⟩ := isWhite_of_mem_gap g.property hg
    refine ⟨?_, hbreak⟩
    rintro rfl
    exact absurd hwhite (by decide)
  cases s with
  | sign before colon after =>
    rw [text, List.mem_append, List.mem_cons] at hc
    rcases hc with hc | rfl | hc
    · exact hgap before hc
    · cases colon <;> exact ⟨by decide, by decide⟩
    · exact hgap after hc
  | space g _ => exact hgap g hc

namespace Entry

variable (e : Entry)

theorem isSound_pieces : ∀ p ∈ e.pieces, p.IsSound := by
  intro p hp
  rw [pieces, List.mem_append, List.mem_append] at hp
  rcases hp with hp | hp | hp
  · obtain ⟨c, -, rfl⟩ := List.mem_map.mp hp
    exact Piece.isSound_ofKey c
  · obtain ⟨c, hc, rfl⟩ := List.mem_map.mp hp
    exact e.separator.isSound_plain hc
  · exact Piece.isSound_ofValueText _ _ p hp

/-- A definition begins with its key, which is neither white space nor a comment. -/
theorem begins_pieces : Begins none e.pieces := by
  obtain ⟨c, cs, hkey⟩ := List.exists_cons_of_ne_nil e.key_ne_nil
  have hfirst : (Piece.ofKey c).isWhite = false ∧
      ∀ t, isSkipped ((Piece.ofKey c).text ++ t) = false := by
    unfold Piece.ofKey
    split
    · exact ⟨rfl, fun _ => rfl⟩
    · next hc =>
      simp only [Bool.or_eq_true, not_or, Bool.not_eq_true] at hc
      exact ⟨hc.2, fun _ => hc.1.2⟩
  refine ⟨e.isSound_pieces, ?_, fun _ => ?_⟩
  · rw [pieces, hkey]
    rintro p ⟨rfl⟩
    exact hfirst.1
  · rw [pieces, hkey]
    exact hfirst.2 _

theorem joinLines_lines (rest : List Text) :
    joinLines none (e.lines ++ rest) = Piece.textAll e.pieces :: joinLines none rest := by
  have h := holds_wrap e.breaks 0 e.pieces none e.indent [] rest e.begins_pieces
  rwa [show e.indent.val ++ Piece.textAll [] = e.indent.val from List.append_nil _] at h

end Entry

/-! ## Terminators -/

/-- Lines that no terminator divides. -/
def Unbroken (ls : List Text) : Prop :=
  ∀ l ∈ ls, ∀ c ∈ l, Line.isBreak c = false

theorem Unbroken.prepend {t : Text} {ls : List Text} (h : Unbroken ls)
    (ht : ∀ c ∈ t, Line.isBreak c = false) : Unbroken (prepend t ls) := by
  cases ls with
  | nil =>
    intro l hl
    rw [List.mem_singleton.mp hl]
    exact ht
  | cons l ls =>
    intro m hm
    rcases List.mem_cons.mp hm with rfl | hm
    · intro c hc
      rcases List.mem_append.mp hc with hc | hc
      · exact ht c hc
      · exact h l List.mem_cons_self c hc
    · exact h m (List.mem_cons_of_mem l hm)

theorem isBreak_of_mem_gap (g : Gap) : ∀ c ∈ g.val, Line.isBreak c = false :=
  fun _ hc => (isWhite_of_mem_gap g.property hc).2

theorem Unbroken.breakWith {ls : List Text} (h : Unbroken ls) (gs : List Gap) :
    Unbroken (breakWith gs ls) := by
  induction gs with
  | nil => exact h
  | cons g gs ih =>
    intro l hl
    rcases List.mem_cons.mp hl with rfl | hl
    · exact List.forall_mem_singleton.mpr (by decide)
    · exact ih.prepend (isBreak_of_mem_gap g) l hl

theorem Piece.IsSound.isBreak_text {p : Piece} (h : p.IsSound) :
    ∀ c ∈ p.text, Line.isBreak c = false := by
  intro c hc
  cases p with
  | plain d =>
    rw [List.mem_singleton.mp hc]
    exact h.2
  | escaped d =>
    rcases List.mem_cons.mp hc with rfl | hc
    · decide
    · rw [List.mem_singleton.mp hc]
      exact h

theorem unbroken_wrap (breaks : Nat → List Gap) (i : Nat) {ps : List Piece}
    (h : ∀ p ∈ ps, p.IsSound) : Unbroken (wrap breaks i ps) := by
  induction ps generalizing i with
  | nil =>
    intro l hl
    rw [List.mem_singleton.mp hl]
    exact fun c hc => nomatch hc
  | cons p ps ih =>
    have hps := ih (i + 1) fun q hq => h q (List.mem_cons_of_mem p hq)
    have hline := hps.prepend (h p List.mem_cons_self).isBreak_text
    rw [wrap]
    split
    · exact hline
    · exact hline.breakWith (breaks i)

namespace Item

theorem unbroken_lines (item : Item) : Unbroken item.lines := by
  cases item with
  | blank space =>
    intro l hl
    rw [List.mem_singleton.mp hl]
    exact isBreak_of_mem_gap space
  | comment indent exclamation words =>
    intro l hl c hc
    rw [List.mem_singleton.mp hl, List.mem_append, List.mem_cons] at hc
    rcases hc with hc | rfl | hc
    · exact isBreak_of_mem_gap indent c hc
    · cases exclamation <;> decide
    · have hwords := List.all_eq_true.mp words.property c hc
      rwa [Bool.not_eq_true'] at hwords
  | entry e =>
    exact (unbroken_wrap e.breaks 0 e.isSound_pieces).prepend (isBreak_of_mem_gap e.indent)

/-- Joining lines skips comments and blank lines, and gives every definition as one line. -/
theorem joinLines_lines (item : Item) (rest : List Text) :
    (joinLines none (item.lines ++ rest)).map splitLine =
      item.pair?.toList ++ (joinLines none rest).map splitLine := by
  cases item with
  | blank space =>
    have hline : Text.trimStart space.val = [] := by
      rw [← List.append_nil space.val, trimStart_append_of_isGap space.property]
      rfl
    show (joinLines none (space.val :: rest)).map splitLine = _
    rw [joinLines, hline]
    rfl
  | comment indent exclamation words =>
    have hline : ∀ c, isCommentMark c = true →
        joinLines none ((indent.val ++ c :: words.val) :: rest) = joinLines none rest := by
      intro c hc
      have htrim : Text.trimStart (indent.val ++ c :: words.val) = c :: words.val := by
        rw [trimStart_append_of_isGap indent.property]
        apply trimStart_of_head
        rintro d ⟨rfl⟩
        rw [isCommentMark, Bool.or_eq_true, beq_iff_eq, beq_iff_eq] at hc
        rcases hc with rfl | rfl <;> decide
      rw [joinLines, htrim]
      show (if isCommentMark c then _ else _) = _
      rw [if_pos hc]
    show (joinLines none ((indent.val ++ _ :: words.val) :: rest)).map splitLine = _
    rw [hline _ (by cases exclamation <;> decide)]
    rfl
  | entry e =>
    show (joinLines none (e.lines ++ rest)).map splitLine = _
    rw [e.joinLines_lines, List.map_cons, splitLine_pieces]
    rfl

end Item

theorem joinLines_items (items : List Item) :
    (joinLines none (items.flatMap Item.lines)).map splitLine = pairs items := by
  induction items with
  | nil => rfl
  | cons item items ih =>
    rw [List.flatMap_cons, item.joinLines_lines, ih, pairs, pairs, List.filterMap_cons]
    cases item.pair? <;> rfl

/-- An empty line at the end adds nothing, even to a line that was to be continued. -/
theorem joinLines_concat_nil (pending : Option Text) (ls : List Text) :
    joinLines pending (ls ++ [[]]) = joinLines pending ls := by
  induction ls generalizing pending with
  | nil =>
    cases pending with
    | none => rfl
    | some t => exact congrArg (fun l => [l]) (List.append_nil t)
  | cons l ls ih =>
    rw [List.cons_append, joinLines, joinLines, ih, ih]

/-- Reading a property file gives the definitions that were written. -/
theorem entries_write (nl : Terminator) (items : List Item) :
    entries (write nl items) = pairs items := by
  have hunbroken : Unbroken (items.flatMap Item.lines) := by
    intro l hl
    obtain ⟨item, -, hl⟩ := List.mem_flatMap.mp hl
    exact item.unbroken_lines l hl
  rw [entries, logicalLines, write, Text.lines_joinWith nl hunbroken, ← joinLines_items]
  split
  · next hlast =>
    obtain ⟨ls, hls⟩ := List.getLast?_eq_some_iff.mp hlast
    rw [hls, List.dropLast_concat, joinLines_concat_nil]
  · rfl

end Properties

namespace Manifest

/-- A manifest lists what the last definition of its property says, in whatever way the definitions
were written down. -/
theorem parse_write (nl : Terminator) (items : List Properties.Item) :
    Properties.entries (Properties.write nl items) = Properties.pairs items ∧
      (∀ before value after,
        Properties.pairs items = before ++ (property, value) :: after →
        (∀ p ∈ after, p.1 ≠ property) →
        (parse (Properties.write nl items)).includes = parseList value) ∧
      ((∀ p ∈ Properties.pairs items, p.1 ≠ property) →
        (parse (Properties.write nl items)).includes = []) := by
  have hread := Properties.entries_write nl items
  have hnone : ∀ ps : List (Text × Text), (∀ p ∈ ps, p.1 ≠ property) →
      ps.reverse.find? (·.1 == property) = none := by
    intro ps hps
    rw [List.find?_eq_none]
    intro p hp
    rw [beq_iff_eq]
    exact hps p (List.mem_reverse.mp hp)
  refine ⟨hread, ?_, ?_⟩
  · intro before value after hpairs hafter
    rw [parse, Properties.value?, hread, hpairs, List.reverse_append, List.reverse_cons,
      List.append_assoc, List.find?_append, hnone after hafter, Option.none_or,
      List.singleton_append, List.find?_cons_of_pos]
    · rfl
    · exact beq_self_eq_true property
  · intro hother
    rw [parse, Properties.value?, hread, hnone _ hother]
    rfl

/-- A comment that ends with a backslash, a definition that a later one replaces, and that later one
broken in its key, at its separator and in its value. -/
def brokenItems : List Properties.Item :=
  [.comment ⟨[' '], rfl⟩ false ⟨"bin.includes=x\\".toList, by decide⟩,
    .entry ⟨property, "old".toList, by decide, ⟨[], rfl⟩, .space ⟨['\t'], rfl⟩ (by decide), false,
      fun _ => []⟩,
    .blank ⟨[], rfl⟩,
    .entry ⟨property, " lib/,a\\,\n=#b".toList, by decide, ⟨[' '], rfl⟩,
      .sign ⟨[' '], rfl⟩ true ⟨[], rfl⟩, true,
      fun i => if i = 4 then [⟨[], rfl⟩, ⟨[' '], rfl⟩] else if i = 13 || i = 24 then [⟨['\t'], rfl⟩]
        else []⟩,
    .entry ⟨"a b!".toList, "c".toList, by decide, ⟨[], rfl⟩, .sign ⟨[], rfl⟩ false ⟨[], rfl⟩, true,
      fun _ => []⟩]

theorem parse_write_brokenItems :
    Properties.write .lf brokenItems =
        (" #bin.includes=x\\\nbin.includes\told\n\n bin.\\\n\\\n includes \\\n\t:\\ lib/,a\\\\,\\n" ++
          "\\\n\t=#b\na\\ b\\!=c").toList ∧
      (parse (Properties.write .lf brokenItems)).includes =
        ["lib".toList, "a\\".toList, "=#b".toList] := by
  have hpairs : Properties.pairs brokenItems =
      [(property, "old".toList)] ++ (property, " lib/,a\\,\n=#b".toList) ::
        [("a b!".toList, "c".toList)] := rfl
  refine ⟨by decide, ?_⟩
  rw [(parse_write .lf brokenItems).2.1 _ _ _ hpairs (by decide)]
  decide

end Manifest

end DocLint
