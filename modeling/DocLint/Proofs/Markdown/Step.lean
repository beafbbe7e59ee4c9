import DocLint.Markdown.Document

/-!
# What one line does to a reader

The reader decides by nested tests what a line starts, whether it heads a table, and which
containers it belongs to. Here each decision is taken apart once: `Opening.Read` and `Reader.Step`
have one case for every outcome, with the test that led to it. What has to be shown of a line
follows by cases on them.
-/

namespace DocLint.Markdown

/-! ## Openings -/

/-- The openings that may be read off a line, and what each says of the line. -/
inductive Opening.Read (interrupt lazy mayUnderline : Bool) (p : Cursor) : Opening → Prop
  | blank (hblank : p.isBlank = true) : Read interrupt lazy mayUnderline p .blank
  | indented (hinterrupt : interrupt = false) (hindent : tabSize ≤ p.indent) :
    Read interrupt lazy mayUnderline p .indented
  | fence {f : OpenFence} (hread : OpenFence.read? p = some f) :
    Read interrupt lazy mayUnderline p (.fence f)
  | html {kind : HtmlKind} {ended : Bool}
    (hread : html? (!interrupt || lazy) p = some (kind, ended)) :
    Read interrupt lazy mayUnderline p (.html kind ended)
  | heading {level : Nat} {words : Text} (hread : atxHeading? p = some (level, words)) :
    Read interrupt lazy mayUnderline p (.heading level words)
  | underline {level : Nat} (hmay : mayUnderline = true) (hread : underline? p = some level) :
    Read interrupt lazy mayUnderline p (.underline level)
  | thematicBreak (hbreak : isThematicBreak p = true) :
    Read interrupt lazy mayUnderline p .thematicBreak
  | text : Read interrupt lazy mayUnderline p .text

namespace Opening

variable {interrupt lazy mayUnderline : Bool} {p : Cursor}

theorem read_ofLine (interrupt lazy mayUnderline : Bool) (p : Cursor) :
    Read interrupt lazy mayUnderline p (ofLine interrupt lazy mayUnderline p) := by
  rw [ofLine]
  split
  · next hblank => exact .blank hblank
  split
  · next hindent =>
    rw [Bool.and_eq_true, Bool.not_eq_true', decide_eq_true_eq] at hindent
    exact .indented hindent.1 hindent.2
  split
  · next f hfence => exact .fence hfence
  split
  · next kind ended hhtml => exact .html hhtml
  split
  · next level words hheading => exact .heading hheading
  split
  · next level hunderline =>
    split at hunderline
    · next hmay => exact .underline hmay hunderline
    · cases hunderline
  split
  · next hbreak => exact .thematicBreak hbreak
  · exact .text

theorem isBlank_of_ofLine (h : ofLine interrupt lazy mayUnderline p = .blank) :
    p.isBlank = true := by
  have hread := read_ofLine interrupt lazy mayUnderline p
  rw [h] at hread
  cases hread with
  | blank hblank => exact hblank

theorem ofLine_ne_underline (interrupt lazy : Bool) (p : Cursor) (level : Nat) :
    ofLine interrupt lazy false p ≠ .underline level := by
  intro h
  have hread := read_ofLine interrupt lazy false p
  rw [h] at hread
  cases hread with
  | underline hmay _ => cases hmay

end Opening

/-! ## Readers -/

namespace Reader

/-- What happens inside the open containers: they stay open, and no node is completed. -/
structure Inside (r r' : Reader) : Prop where
  firsts : r'.frames.map Frame.first = r.frames.map Frame.first
  root : r.frames ≠ [] → r'.root = r.root

/-- The head of a table is the last line of the open prose, and what stands before it stays prose,
which ends. -/
theorem exists_of_startTable? {r r' : Reader} {c : Chunk} (h : r.startTable? c = some r') :
    ∃ chunks before head, r.leaf = .prose (.lines chunks :: before) ∧
      chunks.getLast? = some head ∧
      r' =
        { { r with
            leaf := .prose (if chunks.dropLast.isEmpty then before
              else .lines chunks.dropLast :: before) }.endLeaf .flush with
          leaf := .table head.number c.number (Table.cells head.start)
          interrupt := false } := by
  rw [startTable?] at h
  split at h
  · next chunks before hleaf =>
    split at h
    · next head hlast =>
      split at h
      · split at h
        · exact ⟨chunks, before, head, hleaf, hlast, (Option.some.inj h).symm⟩
        · cases h
      · cases h
    · cases h
  · cases h

namespace Inside

variable {r r' r'' : Reader}

theorem length_frames (h : Inside r r') : r'.frames.length = r.frames.length := by
  rw [← List.length_map Frame.first, h.firsts, List.length_map]

theorem frames_eq_nil_iff (h : Inside r r') : r'.frames = [] ↔ r.frames = [] := by
  rw [← List.length_eq_zero_iff, h.length_frames, List.length_eq_zero_iff]

theorem trans (h : Inside r r') (h' : Inside r' r'') : Inside r r'' where
  firsts := h'.firsts.trans h.firsts
  root hr := by
    have hr' : r'.frames ≠ [] := fun hnil => hr (h.frames_eq_nil_iff.mp hnil)
    rw [h'.root hr', h.root hr]

theorem of_eq (h : Inside r r') (hframes : r''.frames = r'.frames) (hroot : r''.root = r'.root) :
    Inside r r'' where
  firsts := by rw [hframes, h.firsts]
  root hr := by rw [hroot, h.root hr]

theorem refl (r : Reader) : Inside r r :=
  ⟨rfl, fun _ => rfl⟩

theorem setLeaf (r : Reader) (o : Open) : Inside r { r with leaf := o } :=
  ⟨rfl, fun _ => rfl⟩

theorem add (r : Reader) (new : List Node) : Inside r (r.add new) := by
  rw [Reader.add]
  split
  · next hnil => exact ⟨rfl, fun hr => absurd hnil hr⟩
  · next f fs hcons =>
    refine ⟨?_, fun _ => rfl⟩
    rw [hcons]
    rfl

theorem endLeaf (r : Reader) (e : Ending) : Inside r (r.endLeaf e) :=
  (add r (r.leaf.close e)).of_eq rfl rfl

theorem addLine (r : Reader) (number : Nat) (l : Leaf) : Inside r (r.addLine number l) :=
  ((endLeaf r .flush).trans (add _ _)).of_eq rfl rfl

theorem start (r : Reader) (c : Chunk) (o : Opening) : Inside r (r.start c o) := by
  cases o with
  | blank | indented | fence => exact (endLeaf r .flush).of_eq rfl rfl
  | html kind ended =>
    rw [Reader.start]
    split
    · exact addLine r _ _
    · exact (endLeaf r .flush).of_eq rfl rfl
  | heading | thematicBreak => exact addLine r _ _
  | underline level =>
    rw [Reader.start]
    split
    · exact (refl r).of_eq rfl rfl
    · exact refl r
  | text => exact (refl r).of_eq rfl rfl

theorem startTable? {c : Chunk} (h : r.startTable? c = some r') : Inside r r' := by
  obtain ⟨chunks, before, head, -, -, rfl⟩ := exists_of_startTable? h
  exact ((setLeaf r _).trans (endLeaf _ .flush)).of_eq rfl rfl

theorem feed (r : Reader) (c : Chunk) : Inside r (r.feed c) := by
  rw [Reader.feed]
  split
  · split
    · exact (add r _).of_eq rfl rfl
    · exact (refl r).of_eq rfl rfl
  · simp only
    split
    · exact (endLeaf r .flush).of_eq rfl rfl
    · split
      · exact (add r _).of_eq rfl rfl
      · exact (refl r).of_eq rfl rfl
  · split
    · exact (refl r).of_eq rfl rfl
    · split
      · exact (refl r).of_eq rfl rfl
      · exact (endLeaf r .flush).trans (start _ c _)
  · split
    · split
      · exact (endLeaf r .flush).of_eq rfl rfl
      · exact (refl r).of_eq rfl rfl
    · exact (endLeaf r .flush).trans (start _ c _)
  · split
    · next r' hr' => exact startTable? hr'
    · exact start r c _
  · exact start r c _

end Inside

/-! ### Containers -/

theorem length_frames_endFrames (last count : Nat) (r : Reader) :
    (r.endFrames last count).frames.length = r.frames.length - count := by
  induction count generalizing r with
  | zero => rfl
  | succ count ih =>
    have hone : (r.endFrame last).frames.length = r.frames.length - 1 := by
      rw [endFrame]
      split
      · next hnil => rw [hnil]; rfl
      · next hone => rw [hone]; rfl
      · next hmore => rw [hmore]; rfl
    rw [endFrames, ih, hone]
    omega

/-- A line leaves as many containers as it is told to. -/
theorem length_frames_leave (last count : Nat) (e : Ending) (r : Reader) :
    (endFrames last count (r.endLeaf e)).frames.length = r.frames.length - count := by
  rw [length_frames_endFrames, (Inside.endLeaf r e).length_frames]

/-- The containers that go on are the outermost, and if there is none the line is still whole. -/
theorem continueAll_spec (fs : List Frame) (p : Cursor) :
    (continueAll fs p).1.length ≤ fs.length ∧
      (continueAll fs p).1.map Frame.first =
        (fs.map Frame.first).take (continueAll fs p).1.length ∧
      ((continueAll fs p).1 = [] → (continueAll fs p).2 = p) := by
  induction fs generalizing p with
  | nil => exact ⟨Nat.le_refl 0, rfl, fun _ => rfl⟩
  | cons f fs ih =>
    rw [continueAll]
    split
    · exact ⟨Nat.zero_le _, rfl, fun _ => rfl⟩
    · next c q _ =>
      obtain ⟨hlen, hfirsts, -⟩ := ih q
      refine ⟨Nat.succ_le_succ hlen, ?_, fun h => absurd h (List.cons_ne_nil _ _)⟩
      simp only [List.map_cons, List.length_cons, List.take_succ_cons, hfirsts]

/-- How a line comes through the open containers: the `lost` innermost do not go on, the others may
change on the way, and a line that leaves all of them is still whole. -/
structure Finds (r : Reader) (l : Line) (fs : List Frame) (lost : Nat) (p : Cursor) : Prop where
  firsts : fs.map Frame.first = r.frames.map Frame.first
  lost_le : lost ≤ fs.length
  whole : fs.length ≤ lost → p = .ofLine l.text

theorem finds_continueAll {r : Reader} {l : Line} {kept : List Frame} {p : Cursor}
    (h : continueAll r.frames.reverse (Cursor.ofLine l.text) = (kept, p)) :
    Finds r l (r.frames.take (r.frames.length - kept.length) ++ kept.reverse)
      (r.frames.length - kept.length) p := by
  obtain ⟨hle, hfirsts, hwhole⟩ := continueAll_spec r.frames.reverse (Cursor.ofLine l.text)
  simp only [h, List.length_reverse] at hle hfirsts hwhole
  have hlen : (r.frames.take (r.frames.length - kept.length) ++ kept.reverse).length =
      r.frames.length := by
    rw [List.length_append, List.length_take, List.length_reverse]
    omega
  refine ⟨?_, by omega, fun hall => hwhole (List.length_eq_zero_iff.mp (by omega))⟩
  rw [List.map_reverse, List.take_reverse, List.length_map] at hfirsts
  rw [List.map_append, List.map_reverse, hfirsts, List.reverse_reverse, List.map_take,
    List.take_append_drop]

/-- Only an open container can be left. -/
theorem Finds.frames_ne_nil {r : Reader} {l : Line} {fs : List Frame} {lost : Nat} {p : Cursor}
    (h : Finds r l fs lost p) (hlost : lost ≠ 0) : fs ≠ [] := by
  rw [← List.length_pos_iff]
  exact Nat.lt_of_lt_of_le (Nat.pos_of_ne_zero hlost) h.lost_le

/-! ### Lines -/

/-- Line `n` from a position on. -/
def chunk (n : Nat) (l : Line) (p : Cursor) : Chunk :=
  ⟨n, p, l.ending, !Opening.isReserved p⟩

/-- The reader behind the containers that line `n` starts, with `c` as the outermost of them, when
the line has left the `lost` innermost containers. -/
def enter (r : Reader) (n : Nat) (l : Line) (lost : Nat) (c : Container) (q : Cursor) :
    Reader × Cursor :=
  let left := endFrames (n - 1) lost (r.endLeaf .flush)
  let entered := startContainers n l.text.length
    { left with
      frames := ⟨c, n, []⟩ :: left.frames
      interrupt := lost = 0 && left.interrupt } q
  ({ entered.1 with interrupt := lost = 0 && r.inParagraph }, entered.2)

/-- What line `n` makes of a reader, when it goes on at `p` and has left the `lost` innermost
containers. -/
inductive Step (n : Nat) (l : Line) (r : Reader) (lost : Nat) (p : Cursor) : Reader → Prop
  | feed (hlost : lost = 0) : Step n l r lost p (r.feed (chunk n l p))
  /-- No container may start inside code or HTML that the line belongs to. -/
  | start (c : Container) (q : Cursor) (hopen : lost = 0 → r.leaf.isConcrete = false)
    (hstart : Container.start? (lost = 0 && r.interrupt) p = some (c, q)) :
    Step n l r lost p
      ((r.enter n l lost c q).1.feed (chunk n l (r.enter n l lost c q).2))
  | leave (hlost : lost ≠ 0) : Step n l r lost p (r.lazyLine n lost (chunk n l p))

theorem exists_step_line (r : Reader) (n : Nat) (l : Line) :
    ∃ fs lost p, Finds r l fs lost p ∧ Step n l { r with frames := fs } lost p (r.line n l) := by
  cases hkept : continueAll r.frames.reverse (Cursor.ofLine l.text) with
  | mk kept p =>
    refine ⟨_, _, p, finds_continueAll hkept, ?_⟩
    rw [line, hkept]
    simp only
    split
    · next hconcrete =>
      rw [Bool.and_eq_true, decide_eq_true_eq] at hconcrete
      exact .feed hconcrete.1
    · next hopen =>
      split
      · next c q hstart =>
        refine .start c q (fun hlost => ?_) hstart
        rw [Bool.and_eq_true, decide_eq_true_eq, not_and, Bool.not_eq_true] at hopen
        exact hopen hlost
      · split
        · next hlost => exact .feed hlost
        · next hlost => exact .leave hlost

/-- What each of the lines preserves holds when all of them are read. -/
theorem lines_preserve {P : Nat → Reader → Prop} {ls : List Line} {n : Nat} {r : Reader}
    (h : P n r)
    (hline : ∀ i l r, ls[i]? = some l → P (n + i) r → P (n + i + 1) (r.line (n + i) l)) :
    P (n + ls.length) (lines n r ls) := by
  induction ls generalizing n r with
  | nil => exact h
  | cons l ls ih =>
    rw [List.length_cons, Nat.add_comm ls.length 1, ← Nat.add_assoc]
    apply ih (hline 0 l r rfl h)
    intro i l' r' hl' h'
    rw [Nat.add_assoc n 1 i, Nat.add_comm 1 i] at h' ⊢
    exact hline (i + 1) l' r' hl' h'

end Reader

end DocLint.Markdown
