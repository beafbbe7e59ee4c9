import DocLint.Proofs.Markdown.Fence

/-!
# Where code stands

The top-level code of a document, said of its lines: fenced code begins with a line that opens it
and ends with the first line that closes it, or with the document if there is none; indented code
begins with a line that is indented by four columns. The reader keeps this while it reads line by
line (`Reader.Coded`), so it holds of every top-level node.
-/

namespace DocLint.Markdown

/-! ## Code on lines -/

/-- The last of the lines closes the code that the first opens. -/
def Terminated (lines : List Text) (marker : Char) (size first last : Nat) : Prop :=
  first < last ∧ ∃ l, lines[last]? = some l ∧ ClosesFence marker size l

/-- The document ends with the last of the lines, and no line closes the code that the first
opens. -/
def RunsToEnd (lines : List Text) (marker : Char) (size first last : Nat) : Prop :=
  last + 1 = lines.length ∧
    ∀ i l, first < i → lines[i]? = some l → ¬ClosesFence marker size l

/-- Fenced code on the lines from `first` to `last`. -/
structure IsFenced (lines : List Text) (marker : Char) (size first last : Nat) : Prop where
  opens : ∃ l, lines[first]? = some l ∧ OpensFence marker size l
  /-- No line before the last closes it. -/
  inside : ∀ i l, first < i → i < last → lines[i]? = some l → ¬ClosesFence marker size l
  ends : Terminated lines marker size first last ∨ RunsToEnd lines marker size first last

/-- A line that is indented by four columns. -/
def IsIndented (lines : List Text) (i : Nat) : Prop :=
  ∃ l, lines[i]? = some l ∧ tabSize ≤ (Cursor.ofLine l).indent

/-- What is to be said of a node that is code. -/
def Node.CodeIn (lines : List Text) : Node → Prop
  | .leaf first last (.code true _) => ∃ marker size, IsFenced lines marker size first last
  | .leaf first _ (.code false _) => IsIndented lines first
  | _ => True

/-- What is to be said of an open block that is code, when line `n` is next. -/
def Open.CodeIn (lines : List Text) (n : Nat) : Open → Prop
  | .fence f first ls =>
    (∃ l, lines[first]? = some l ∧ OpenFence.read? (.ofLine l) = some f) ∧ 0 < ls.length ∧
      first + ls.length = n ∧
      -- Said with the reader's own test, which `IsFenced` spells out.
      ∀ i l, first < i → i < n → lines[i]? = some l → f.isClosedBy (.ofLine l) = false
  | .indented first _ _ => IsIndented lines first
  | _ => True

/-- An open block that is fenced code. -/
def Open.IsFence : Open → Prop
  | .fence .. => True
  | _ => False

theorem Open.IsFence.isConcrete {o : Open} (h : o.IsFence) : o.isConcrete = true := by
  cases o with
  | fence f first ls => rfl
  | _ => exact h.elim

/-! ## Nodes that are no code -/

namespace Prose

variable (lines : List Text)

theorem codeIn_definitions (fuel : Nat) (chunks : List Chunk) :
    ∀ m ∈ (definitions fuel chunks).1, m.CodeIn lines := by
  induction fuel generalizing chunks with
  | zero => exact List.forall_mem_nil _
  | succ fuel ih =>
    cases hdef : definition? (Chunk.glyphs chunks) with
    | none =>
      rw [definitions, hdef]
      exact List.forall_mem_nil _
    | some found =>
      obtain ⟨label, rest⟩ := found
      rw [definitions_succ_of_some hdef]
      exact List.forall_mem_cons.mpr ⟨trivial, ih _⟩

theorem codeIn_paragraph (chunks : List Chunk) : ∀ m ∈ paragraph chunks, m.CodeIn lines := by
  rw [paragraph]
  split
  · exact List.forall_mem_nil _
  · exact List.forall_mem_singleton.mpr trivial

theorem codeIn_nodes (pending : List Chunk) (bare : Bool) (segments : List Segment) :
    ∀ m ∈ nodes pending bare segments, m.CodeIn lines := by
  induction segments generalizing pending bare with
  | nil => exact codeIn_paragraph lines pending
  | cons segment rest ih =>
    cases segment with
    | lines chunks =>
      rw [nodes]
      simp only
      split
      · exact ih _ _
      · rw [List.forall_mem_append, List.forall_mem_append]
        exact ⟨⟨codeIn_paragraph lines pending, codeIn_definitions lines _ chunks⟩, ih _ _⟩
    | underline level chunk =>
      rw [nodes]
      split
      · exact ih _ _
      · exact List.forall_mem_cons.mpr ⟨trivial, ih _ _⟩

end Prose

/-- A container that ends is no code, and leaves the nodes before it. -/
theorem Frame.codeIn_close {lines : List Text} (f : Frame) (last : Nat) {before : List Node}
    (h : ∀ m ∈ before, m.CodeIn lines) : ∀ m ∈ f.close last before, m.CodeIn lines := by
  unfold close
  cases f.container with
  | quote => exact List.forall_mem_cons.mpr ⟨trivial, h⟩
  | note label => exact List.forall_mem_cons.mpr ⟨trivial, h⟩
  | item marker size startsBlank =>
    show ∀ m ∈ Node.addItem marker _ before, m.CodeIn lines
    unfold Node.addItem
    -- The item joins the list before it, or begins a list.
    split
    · split
      · exact List.forall_mem_cons.mpr ⟨trivial, (List.forall_mem_cons.mp h).2⟩
      · exact List.forall_mem_cons.mpr ⟨trivial, h⟩
    · exact List.forall_mem_cons.mpr ⟨trivial, h⟩

/-! ## The open block -/

namespace Open.CodeIn

variable {lines : List Text} {n : Nat} {o : Open}

/-- Only what is said of fenced code depends on the lines read so far. -/
theorem of_not_isFence {k : Nat} (h : o.CodeIn lines n) (hfence : ¬o.IsFence) :
    o.CodeIn lines k := by
  cases o with
  | fence f first ls => exact absurd trivial hfence
  | indented first ls after => exact h
  | _ => trivial

/-- When code ends, it is code on its lines. Fenced code ends here with the document only. -/
theorem close (h : o.CodeIn lines n) (hfence : o.IsFence → n = lines.length) (e : Ending) :
    ∀ m ∈ o.close e, m.CodeIn lines := by
  cases o with
  | none => exact List.forall_mem_nil _
  | prose segments => exact Prose.codeIn_nodes lines [] false segments.reverse
  | fence f first ls =>
    obtain ⟨⟨l, hl, hread⟩, hpos, rfl, hinside⟩ := h
    have hend := hfence trivial
    have hopens := OpenFence.opensFence_of_read? hread
    have hnot : ∀ i k, first < i → lines[i]? = some k → ¬ClosesFence f.marker f.size k := by
      intro i k hi hk
      have hlt : i < lines.length := (List.getElem?_eq_some_iff.mp hk).1
      rw [← hopens.isClosedBy_iff, hinside i k hi (by omega) hk]
      exact Bool.false_ne_true
    have hfenced : IsFenced lines f.marker f.size first (first + ls.length - 1) :=
      ⟨⟨l, hl, hopens⟩, fun i k hi _ => hnot i k hi, .inr ⟨by omega, hnot⟩⟩
    exact List.forall_mem_singleton.mpr ⟨f.marker, f.size, hfenced⟩
  | html kind first ls => exact List.forall_mem_singleton.mpr trivial
  | indented first ls after => exact List.forall_mem_singleton.mpr h
  | table first last cells => exact List.forall_mem_singleton.mpr trivial

/-- Line `n` closes the fenced code. -/
theorem isFenced {f : OpenFence} {first : Nat} {ls : List Line} {l : Text}
    (h : (Open.fence f first ls).CodeIn lines n) (hl : lines[n]? = some l)
    (hclosed : f.isClosedBy (.ofLine l) = true) : IsFenced lines f.marker f.size first n := by
  obtain ⟨⟨opening, hopening, hread⟩, hpos, hlen, hinside⟩ := h
  have hopens := OpenFence.opensFence_of_read? hread
  refine ⟨⟨opening, hopening, hopens⟩, ?_, .inl ⟨by omega, l, hl, hopens.isClosedBy_iff.mp hclosed⟩⟩
  intro i k hi hin hk
  rw [← hopens.isClosedBy_iff, hinside i k hi hin hk]
  exact Bool.false_ne_true

/-- Line `n` is one of the lines of the fenced code. -/
theorem cons {f : OpenFence} {first : Nat} {ls : List Line} {l : Text}
    (h : (Open.fence f first ls).CodeIn lines n) (hl : lines[n]? = some l)
    (hopen : f.isClosedBy (.ofLine l) = false) (k : Line) :
    (Open.fence f first (k :: ls)).CodeIn lines (n + 1) := by
  obtain ⟨hopening, hpos, hlen, hinside⟩ := h
  refine ⟨hopening, Nat.succ_pos _, by rw [List.length_cons]; omega, ?_⟩
  intro i m hi hin hm
  rcases Nat.lt_succ_iff_lt_or_eq.mp hin with hin | rfl
  · exact hinside i m hi hin hm
  · rw [hl] at hm
    cases hm
    exact hopen

end Open.CodeIn

/-! ## What openings say about a line -/

/-- What an opening of code says of the line it was read from. -/
def Opening.Fits (p : Cursor) : Opening → Prop
  | .indented => tabSize ≤ p.indent
  | .fence f => OpenFence.read? p = some f
  | _ => True

theorem Opening.fits_ofLine (interrupt lazy mayUnderline : Bool) (p : Cursor) :
    (ofLine interrupt lazy mayUnderline p).Fits p := by
  have hread := read_ofLine interrupt lazy mayUnderline p
  generalize ofLine interrupt lazy mayUnderline p = o at hread ⊢
  cases hread with
  | indented _ hindent => exact hindent
  | fence hfence => exact hfence
  | _ => trivial

/-- A chunk that no container has taken anything from. -/
def Chunk.IsLine (lines : List Text) (c : Chunk) : Prop :=
  ∃ l, lines[c.number]? = some l ∧ c.start = .ofLine l

/-! ## Readers -/

namespace Reader

/-- Code among the complete nodes is code on its lines, and so is the open block unless containers
are open: then it belongs to them and makes no top-level node. -/
structure Coded (lines : List Text) (n : Nat) (r : Reader) : Prop where
  root : ∀ m ∈ r.root, m.CodeIn lines
  leaf : r.frames = [] → r.leaf.CodeIn lines n

namespace Coded

variable {lines : List Text} {n k : Nat} {r : Reader} {c : Chunk}

theorem add (h : Coded lines n r) {new : List Node}
    (hnew : r.frames = [] → ∀ m ∈ new, m.CodeIn lines) : Coded lines n (r.add new) := by
  rw [Reader.add]
  split
  · next hnil =>
    refine ⟨fun m hm => ?_, h.leaf⟩
    rcases List.mem_append.mp hm with hm | hm
    · exact hnew hnil m (List.mem_reverse.mp hm)
    · exact h.root m hm
  · exact ⟨h.root, fun hnil => absurd hnil (List.cons_ne_nil _ _)⟩

/-- Ends the open block. Outside of containers, only the end of the document ends fenced code so. -/
theorem endLeaf (h : Coded lines n r)
    (hfence : r.frames = [] → r.leaf.IsFence → n = lines.length) (e : Ending) :
    Coded lines k (r.endLeaf e) :=
  ⟨(h.add fun hr => (h.leaf hr).close (hfence hr) e).root, fun _ => trivial⟩

theorem endLeaf_of_not_isFence (h : Coded lines n r) (hfence : r.frames = [] → ¬r.leaf.IsFence)
    (e : Ending) : Coded lines k (r.endLeaf e) :=
  h.endLeaf (fun hr hleaf => absurd hleaf (hfence hr)) e

theorem addLine (h : Coded lines n r) (hfence : r.frames = [] → ¬r.leaf.IsFence) (number : Nat)
    {l : Leaf} (hl : (Node.leaf number number l).CodeIn lines) :
    Coded lines k (r.addLine number l) := by
  have hended : Coded lines k (r.endLeaf .flush) := h.endLeaf_of_not_isFence hfence .flush
  have hadded := hended.add fun _ => List.forall_mem_singleton.mpr hl
  exact ⟨hadded.root, hadded.leaf⟩

/-- A block that the line completes. -/
theorem complete (h : Coded lines n r) {m : Node} (hm : r.frames = [] → m.CodeIn lines) (b : Bool) :
    Coded lines k { r.add [m] with leaf := .none, interrupt := b } :=
  ⟨(h.add fun hr => List.forall_mem_singleton.mpr (hm hr)).root, fun _ => trivial⟩

theorem addProse (h : Coded lines n r) : Coded lines k (r.addProse c) :=
  ⟨h.root, fun _ => trivial⟩

/-- A line that starts a block. Code starts as its line says. -/
theorem start (h : Coded lines n r) (hfence : r.frames = [] → ¬r.leaf.IsFence)
    (hline : r.frames = [] → c.IsLine lines) (interrupt lazy mayUnderline : Bool) :
    Coded lines (c.number + 1) (r.start c (.ofLine interrupt lazy mayUnderline c.start)) := by
  have hended : Coded lines n (r.endLeaf .flush) := h.endLeaf_of_not_isFence hfence .flush
  have hsame : (r.endLeaf .flush).frames = [] ↔ r.frames = [] :=
    (Inside.endLeaf r .flush).frames_eq_nil_iff
  have hfits := Opening.fits_ofLine interrupt lazy mayUnderline c.start
  generalize Opening.ofLine interrupt lazy mayUnderline c.start = o at hfits ⊢
  cases o with
  | blank => exact ⟨hended.root, fun _ => trivial⟩
  | indented =>
    refine ⟨hended.root, fun hr => ?_⟩
    obtain ⟨l, hl, hstart⟩ := hline (hsame.mp hr)
    exact ⟨l, hl, hstart ▸ hfits⟩
  | fence f =>
    refine ⟨hended.root, fun hr => ?_⟩
    obtain ⟨l, hl, hstart⟩ := hline (hsame.mp hr)
    refine ⟨⟨l, hl, hstart ▸ hfits⟩, Nat.one_pos, rfl, ?_⟩
    intro i k hi hin
    omega
  | html kind ended =>
    rw [Reader.start]
    split
    · exact h.addLine hfence c.number (l := .html _) trivial
    · exact ⟨hended.root, fun _ => trivial⟩
  | heading level words => exact h.addLine hfence c.number (l := .heading _ _) trivial
  | underline level =>
    rw [Reader.start]
    split
    · exact ⟨h.root, fun _ => trivial⟩
    · exact ⟨h.root, fun hr => (h.leaf hr).of_not_isFence (hfence hr)⟩
  | thematicBreak => exact h.addLine hfence c.number (l := .thematicBreak) trivial
  | text => exact h.addProse

theorem startTable? {r' : Reader} (h : Coded lines n r) (hstart : r.startTable? c = some r') :
    Coded lines k r' := by
  obtain ⟨chunks, before, head, -, -, rfl⟩ := exists_of_startTable? hstart
  generalize (if chunks.dropLast.isEmpty then before else _) = segments
  have hprose : Coded lines n { r with leaf := .prose segments } := ⟨h.root, fun _ => trivial⟩
  have hended : Coded lines n ({ r with leaf := .prose segments }.endLeaf .flush) :=
    hprose.endLeaf_of_not_isFence (fun _ => id) .flush
  exact ⟨hended.root, fun _ => trivial⟩

/-- A line that ends the open block and may start another. -/
theorem restart (h : Coded lines n r) (hfence : r.frames = [] → ¬r.leaf.IsFence)
    (hline : r.frames = [] → c.IsLine lines) (interrupt : Bool) :
    Coded lines (c.number + 1)
      ((r.endLeaf .flush).start c (.ofLine interrupt false false c.start)) := by
  have hended : Coded lines n (r.endLeaf .flush) := h.endLeaf_of_not_isFence hfence .flush
  refine hended.start (fun _ => id) (fun hr => ?_) _ _ _
  exact hline ((Inside.endLeaf r .flush).frames_eq_nil_iff.mp hr)

/-- A line that belongs to all open containers. Fenced code goes on until a line closes it. -/
theorem feed (h : Coded lines n r) (hc : c.number = n)
    (hline : r.frames = [] → c.IsLine lines) : Coded lines (n + 1) (r.feed c) := by
  subst hc
  have hended : (r.frames = [] → ¬r.leaf.IsFence) → Coded lines c.number (r.endLeaf .flush) :=
    fun hfence => h.endLeaf_of_not_isFence hfence .flush
  rw [Reader.feed]
  split
  · next f first ls hleaf =>
    -- Inside containers the cursor is not at the beginning of a line, and nothing is to be said.
    have hcode : r.frames = [] → (Open.fence f first ls).CodeIn lines c.number :=
      hleaf ▸ h.leaf
    split
    · next hclosed =>
      refine h.complete (fun hr => ?_) false
      obtain ⟨l, hl, hstart⟩ := hline hr
      rw [hstart] at hclosed
      exact ⟨f.marker, f.size, (hcode hr).isFenced hl hclosed⟩
    · next hopen =>
      refine ⟨h.root, fun hr => ?_⟩
      obtain ⟨l, hl, hstart⟩ := hline hr
      rw [hstart, Bool.not_eq_true] at hopen
      exact (hcode hr).cons hl hopen _
  · next kind first ls hleaf =>
    simp only
    split
    · exact ⟨(hended fun _ => hleaf ▸ id).root, fun _ => trivial⟩
    · split
      · exact h.complete (m := .leaf first c.number (.html _)) (fun _ => trivial) false
      · exact ⟨h.root, fun _ => trivial⟩
  · next first ls after hleaf =>
    -- Indented code that goes on keeps its first line.
    have hcode : r.frames = [] → (Open.indented first ls after).CodeIn lines c.number :=
      hleaf ▸ h.leaf
    split
    · exact ⟨h.root, hcode⟩
    · split
      · exact ⟨h.root, hcode⟩
      · exact h.restart (fun _ => hleaf ▸ id) hline _
  · next first last cells hleaf =>
    split
    · split
      · exact (hended fun _ => hleaf ▸ id).addProse
      · exact ⟨h.root, fun _ => trivial⟩
    · exact h.restart (fun _ => hleaf ▸ id) hline _
  · next segments hleaf =>
    -- Prose may turn out to be the head of a table, else the line may start a block.
    split
    · next r' hr' => exact h.startTable? hr'
    · exact h.start (fun _ => hleaf ▸ id) hline _ _ _
  · next hleaf => exact h.start (fun _ => hleaf ▸ id) hline _ _ _

theorem endFrame (h : Coded lines n r) (hleaf : r.leaf = .none) (last : Nat) :
    Coded lines n (r.endFrame last) ∧ (r.endFrame last).leaf = .none := by
  rw [Reader.endFrame]
  split
  · exact ⟨h, hleaf⟩
  · next f _ => exact ⟨⟨f.codeIn_close last h.root, fun _ => hleaf ▸ trivial⟩, hleaf⟩
  · exact ⟨⟨h.root, fun hnil => absurd hnil (List.cons_ne_nil _ _)⟩, hleaf⟩

theorem endFrames (h : Coded lines n r) (hleaf : r.leaf = .none) (last count : Nat) :
    Coded lines n (r.endFrames last count) ∧ (r.endFrames last count).leaf = .none := by
  induction count generalizing r with
  | zero => exact ⟨h, hleaf⟩
  | succ count ih =>
    obtain ⟨hended, hnone⟩ := h.endFrame hleaf last
    exact ih hended hnone

theorem startContainers (fuel : Nat) (p : Cursor) (h : Coded lines n r) (hr : r.frames ≠ []) :
    Coded lines n (Reader.startContainers k fuel r p).1 ∧
      (Reader.startContainers k fuel r p).1.frames ≠ [] := by
  induction fuel generalizing r p with
  | zero => exact ⟨h, hr⟩
  | succ fuel ih =>
    rw [Reader.startContainers]
    split
    · exact ⟨h, hr⟩
    · next container q _ =>
      have hcons : (⟨container, k, []⟩ : Frame) :: r.frames ≠ [] := List.cons_ne_nil _ _
      exact ih q ⟨h.root, fun hnil => absurd hnil hcons⟩ hcons

/-- What a line leaves belongs to containers, or is no fenced code. -/
theorem leave (h : Coded lines n r) (hfence : r.frames = [] → ¬r.leaf.IsFence) (e : Ending)
    (last count : Nat) :
    Coded lines n (Reader.endFrames last count (r.endLeaf e)) ∧
      (Reader.endFrames last count (r.endLeaf e)).leaf = .none :=
  (h.endLeaf_of_not_isFence hfence e).endFrames rfl last count

theorem lazyLine {lost : Nat} (h : Coded lines n r) (hc : c.number = n) (hr : r.frames ≠ [])
    (hline : r.frames.length ≤ lost → c.IsLine lines) :
    Coded lines (n + 1) (r.lazyLine n lost c) := by
  obtain ⟨hleave, hnone⟩ := h.leave (fun hnil => absurd hnil hr) .lazy (n - 1) lost
  have hline' : (Reader.endFrames (n - 1) lost (r.endLeaf .lazy)).frames = [] →
      c.IsLine lines := by
    intro hnil
    apply hline
    have hlen := length_frames_leave (n - 1) lost .lazy r
    rw [hnil, List.length_nil] at hlen
    omega
  have hstart : ∀ d : Chunk, d.number = c.number → d.start = c.start → Coded lines (n + 1)
      ((Reader.endFrames (n - 1) lost (r.endLeaf .lazy)).start d
        (.ofLine r.inParagraph true false c.start)) := by
    intro d hnumber hcursor
    generalize Reader.endFrames (n - 1) lost (r.endLeaf .lazy) = left at *
    rw [← hc, ← hnumber, ← hcursor]
    refine hleave.start (fun _ => hnone ▸ id) (fun hnil => ?_) _ _ _
    rw [Chunk.IsLine, hnumber, hcursor]
    exact hline' hnil
  rw [Reader.lazyLine]
  simp only
  split
  · exact h.addProse
  · have hnext := hstart { c with mayHead := false } rfl rfl
    exact ⟨hnext.root, hnext.leaf⟩
  · have hnext := hstart c rfl rfl
    exact ⟨hnext.root, hnext.leaf⟩

theorem setFrames (h : Coded lines n r) {fs : List Frame}
    (hfs : fs.map Frame.first = r.frames.map Frame.first) :
    Coded lines n { r with frames := fs } := by
  refine ⟨h.root, fun hnil => h.leaf ?_⟩
  rw [← List.map_eq_nil_iff (f := Frame.first), ← hfs]
  exact List.map_eq_nil_iff.mpr hnil

/-- The containers that a line starts hold everything that comes in. -/
theorem enter (h : Coded lines n r) (hfence : r.frames = [] → ¬r.leaf.IsFence) (l : Line)
    (lost : Nat) (container : Container) (q : Cursor) :
    Coded lines n (r.enter n l lost container q).1 ∧
      (r.enter n l lost container q).1.frames ≠ [] := by
  obtain ⟨hleave, -⟩ := h.leave hfence .flush (n - 1) lost
  generalize hleft : Reader.endFrames (n - 1) lost (r.endLeaf .flush) = left at hleave
  have hpush : Coded lines n
      { left with
        frames := ⟨container, n, []⟩ :: left.frames
        interrupt := decide (lost = 0) && left.interrupt } :=
    ⟨hleave.root, fun hnil => absurd hnil (List.cons_ne_nil _ _)⟩
  obtain ⟨hstarted, hne⟩ :=
    hpush.startContainers (k := n) l.text.length q (List.cons_ne_nil _ _)
  rw [Reader.enter, hleft]
  exact ⟨⟨hstarted.root, hstarted.leaf⟩, hne⟩

/-- A line completes code, goes on with it or starts it. -/
theorem line {l : Line} (h : Coded lines n r) (hl : lines[n]? = some l.text) :
    Coded lines (n + 1) (r.line n l) := by
  obtain ⟨fs, lost, p, hfinds, hstep⟩ := exists_step_line r n l
  have hfound : Coded lines n { r with frames := fs } := h.setFrames hfinds.firsts
  have hline : fs.length ≤ lost → (chunk n l p).IsLine lines :=
    fun hall => ⟨l.text, hl, hfinds.whole hall⟩
  generalize r.line n l = r' at hstep ⊢
  cases hstep with
  | feed hlost =>
    refine hfound.feed rfl fun hnil => hline ?_
    rw [List.length_eq_zero_iff.mpr hnil]
    exact Nat.zero_le lost
  | start container q hopen hstart =>
    -- Fenced code outside of containers would take the line, so this does not end it.
    have hfence : fs = [] → ¬r.leaf.IsFence := by
      intro hnil hleaf
      have hlost : lost = 0 :=
        Decidable.byContradiction fun hne => hfinds.frames_ne_nil hne hnil
      exact Bool.false_ne_true ((hopen hlost).symm.trans hleaf.isConcrete)
    obtain ⟨hentered, hne⟩ := hfound.enter hfence l lost container q
    exact hentered.feed rfl fun hnil => absurd hnil hne
  | leave hlost => exact hfound.lazyLine rfl (hfinds.frames_ne_nil hlost) hline

theorem line_all {ls : List Line} (h : Coded lines n r)
    (hlines : ∀ i l, ls[i]? = some l → lines[n + i]? = some l.text) :
    Coded lines (n + ls.length) (Reader.lines n r ls) :=
  lines_preserve (P := Coded lines) h fun i l _ hl hcoded => hcoded.line (hlines i l hl)

/-- Fenced code that no line has closed ends with the document. -/
theorem finish (h : Coded lines lines.length r) (last : Nat) :
    ∀ m ∈ r.finish last, m.CodeIn lines := by
  have hended : Coded lines lines.length (r.endLeaf .flush) := h.endLeaf (fun _ _ => rfl) .flush
  intro m hm
  exact (hended.endFrames rfl last r.frames.length).1.root m (List.mem_reverse.mp hm)

end Coded

end Reader

/-- Every top-level node of a document that is code is code on its lines. -/
theorem codeIn_readNodes (ls : List Line) : ∀ m ∈ readNodes ls, m.CodeIn (ls.map Line.text) := by
  have hstart : Reader.Coded (ls.map Line.text) 0 {} :=
    ⟨fun m hm => (List.not_mem_nil hm).elim, fun _ => trivial⟩
  have hread : Reader.Coded (ls.map Line.text) (0 + ls.length) (Reader.lines 0 {} ls) := by
    apply hstart.line_all
    intro i l hl
    rw [Nat.zero_add, List.getElem?_map, hl]
    rfl
  rw [Nat.zero_add, ← List.length_map Line.text] at hread
  exact hread.finish _

end DocLint.Markdown
