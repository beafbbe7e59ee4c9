import DocLint.Proofs.Markdown.Prose
import DocLint.Proofs.Markdown.Step

/-!
# The lines of the top-level nodes

The reader looks at every line once and gives it to one top-level node, unless the line is blank.
`Covers` states this of the nodes that are complete, `Open.Holds` of the block that is open, and
`Reader.Covered` of a reader, whose open containers belong to one node that is not complete yet. One
line preserves `Covered`, so the nodes of a document have ascending, disjoint lines, and only blank
lines lie between them.
-/

namespace DocLint.Markdown

/-! ## Complete nodes -/

/-- A list that begins with an item, or any other node: a node whose lines can be told. -/
def Node.IsWhole : Node → Prop
  | .list _ items => ∃ first last children rest, items = .item first last children :: rest
  | _ => True

/-- The nodes, of which the last comes first, have ascending lines before line `n`, and the lines
that belong to none of them are blank. -/
def Covers (blank : Nat → Prop) : (n : Nat) → List Node → Prop
  | n, [] => ∀ i < n, blank i
  | n, m :: ms =>
    m.IsWhole ∧ m.first ≤ m.last ∧ m.last < n ∧ (∀ i < n, m.last < i → blank i) ∧
      Covers blank m.first ms

namespace Covers

variable {blank : Nat → Prop} {n : Nat} {ns : List Node}

theorem of_blank_from {k : Nat} (h : Covers blank n ns) (hnk : n ≤ k)
    (hblank : ∀ i, n ≤ i → i < k → blank i) : Covers blank k ns := by
  cases ns with
  | nil =>
    intro i hi
    by_cases hin : i < n
    · exact h i hin
    · exact hblank i (Nat.le_of_not_lt hin) hi
  | cons m ms =>
    obtain ⟨hwhole, hle, hlt, hgap, hrest⟩ := h
    refine ⟨hwhole, hle, Nat.lt_of_lt_of_le hlt hnk, fun i hi hmi => ?_, hrest⟩
    by_cases hin : i < n
    · exact hgap i hin hmi
    · exact hblank i (Nat.le_of_not_lt hin) hi

theorem succ_of_blank (h : Covers blank n ns) (hn : blank n) : Covers blank (n + 1) ns := by
  apply h.of_blank_from (Nat.le_succ n)
  intro i hni hi
  obtain rfl : i = n := by omega
  exact hn

theorem cons_of_first_eq {m : Node} (h : Covers blank m.first ns) (hwhole : m.IsWhole)
    (hle : m.first ≤ m.last) : Covers blank (m.last + 1) (m :: ns) :=
  ⟨hwhole, hle, Nat.lt_succ_self _, fun _ hi hmi => absurd hmi (by omega), h⟩

/-- Leaves that cover the lines behind other nodes. -/
theorem appendNodes_of_tiles {a b : Nat} {new : List Node} (h : Covers blank a ns)
    (htiles : Tiles a new b) : Covers blank b (appendNodes new ns) := by
  rw [appendNodes]
  induction new generalizing a ns with
  | nil =>
    obtain rfl : a = b := htiles
    exact h
  | cons m ms ih =>
    cases m with
    | leaf first last l =>
      obtain ⟨rfl, hle, hrest⟩ := htiles
      rw [List.reverse_cons, List.append_assoc, List.singleton_append]
      exact ih (cons_of_first_eq h trivial hle) hrest
    | _ => cases htiles

/-- A container that ends with line `last`. An item that joins a list takes the blank lines between
them into the list. -/
theorem frameClose {f : Frame} {last : Nat} (h : Covers blank f.first ns) (hle : f.first ≤ last) :
    Covers blank (last + 1) (f.close last ns) := by
  have hnew : ∀ (marker : Char) (children : List Node),
      Covers blank (last + 1) (.list marker [.item f.first last children] :: ns) :=
    fun marker children => cons_of_first_eq h ⟨_, _, _, _, rfl⟩ hle
  rw [Frame.close]
  cases f.container with
  | quote => exact cons_of_first_eq h trivial hle
  | note label => exact cons_of_first_eq h trivial hle
  | item marker size startsBlank =>
    simp only
    unfold Node.addItem
    split
    · next m items before =>
      split
      · -- The list goes on: it keeps its first line and ends with the new item.
        obtain ⟨⟨first, end', children, rest, rfl⟩, hfirst, hlt, -, hbefore⟩ := h
        have hlast : (Node.list m (.item first end' children :: rest ++
            [.item f.first last f.children.reverse])).last = last := by
          simp only [Node.last, List.getLast?_append, List.getLast?_singleton, Option.some_or]
        refine ⟨⟨_, _, _, _, rfl⟩, ?_, ?_, ?_, hbefore⟩
        · rw [hlast]
          change first ≤ last
          change first ≤ _ at hfirst
          omega
        · rw [hlast]
          exact Nat.lt_succ_self last
        · intro i hi hmi
          rw [hlast] at hmi
          omega
      · exact hnew marker _
    · exact hnew marker _

end Covers

/-! ## The open block -/

/-- The open block holds the lines from `m` to the line before `n`. -/
def Open.Holds (blank : Nat → Prop) (m n : Nat) : Open → Prop
  | .none => m = n
  | .prose segments =>
    Numbered m (Segment.allChunks segments.reverse) ∧
      m + (Segment.allChunks segments.reverse).length = n
  | .fence _ first lines | .html _ first lines => first = m ∧ 0 < lines.length ∧ m + lines.length = n
  | .indented first lines after =>
    first = m ∧ 0 < lines.length ∧ m + lines.length + after.length = n ∧
      ∀ i, m + lines.length ≤ i → i < n → blank i
  | .table first last _ => first = m ∧ m ≤ last ∧ last + 1 = n

theorem Segment.allChunks_reverse_cons (s : Segment) (segments : List Segment) :
    allChunks (s :: segments).reverse = allChunks segments.reverse ++ s.chunks := by
  simp only [allChunks, List.reverse_cons, List.flatMap_append, List.flatMap_cons,
    List.flatMap_nil, List.append_nil]

namespace Open.Holds

variable {blank : Nat → Prop} {m n : Nat} {o : Open}

/-- When the block ends, its nodes cover the lines it held. -/
theorem close (h : o.Holds blank m n) {ns : List Node} (hns : Covers blank m ns) (e : Ending) :
    Covers blank n (appendNodes (o.close e) ns) := by
  have hleaf : ∀ (k : Nat) (l : Leaf), 0 < k →
      Covers blank (m + k) (appendNodes [.leaf m (m + k - 1) l] ns) := by
    intro k l hk
    apply hns.appendNodes_of_tiles
    refine ⟨rfl, by omega, ?_⟩
    change m + k - 1 + 1 = m + k
    omega
  cases o with
  | none =>
    obtain rfl : m = n := h
    exact hns
  | prose segments =>
    obtain ⟨hnum, rfl⟩ := h
    have htiles : Tiles m (Prose.nodes [] false segments.reverse)
        (m + (Segment.allChunks segments.reverse).length) := Prose.tiles_nodes false hnum
    exact hns.appendNodes_of_tiles htiles
  | fence f first lines =>
    obtain ⟨rfl, hpos, rfl⟩ := h
    exact hleaf lines.length _ hpos
  | html kind first lines =>
    obtain ⟨rfl, hpos, rfl⟩ := h
    exact hleaf lines.length _ hpos
  | indented first lines after =>
    -- The blank lines at the end turn out not to be code.
    obtain ⟨rfl, hpos, rfl, hblank⟩ := h
    exact (hleaf lines.length _ hpos).of_blank_from (Nat.le_add_right _ _) hblank
  | table first last cells =>
    obtain ⟨rfl, hle, rfl⟩ := h
    exact hns.appendNodes_of_tiles ⟨rfl, hle, rfl⟩

/-- Prose goes on with the next line. -/
theorem append_prose {segments segments' : List Segment} {c : Chunk}
    (h : (Open.prose segments).Holds blank m n) (hc : c.number = n)
    (hchunks : Segment.allChunks segments'.reverse =
      Segment.allChunks segments.reverse ++ [c]) :
    (Open.prose segments').Holds blank m (n + 1) := by
  obtain ⟨hnum, hlen⟩ := h
  refine ⟨?_, ?_⟩
  · rw [hchunks, Numbered.append_iff, hlen]
    exact ⟨hnum, hc, trivial⟩
  · rw [hchunks, List.length_append, List.length_singleton, ← Nat.add_assoc, hlen]

/-- Prose without its last line. -/
theorem dropLast_prose {chunks : List Chunk} {before : List Segment} {head : Chunk}
    (h : (Open.prose (.lines chunks :: before)).Holds blank m n)
    (hhead : chunks.getLast? = some head) :
    head.number + 1 = n ∧
      (Open.prose (if chunks.dropLast.isEmpty then before
        else .lines chunks.dropLast :: before)).Holds blank m head.number := by
  obtain ⟨init, rfl⟩ := List.getLast?_eq_some_iff.mp hhead
  have hchunks : Segment.allChunks (if (init ++ [head]).dropLast.isEmpty then before
      else .lines (init ++ [head]).dropLast :: before).reverse =
      Segment.allChunks before.reverse ++ init := by
    rw [List.dropLast_concat]
    split
    · next hempty => rw [List.isEmpty_iff.mp hempty, List.append_nil]
    · rw [Segment.allChunks_reverse_cons, Segment.chunks]
  obtain ⟨hnum, hlen⟩ := h
  rw [Segment.allChunks_reverse_cons, Segment.chunks, ← List.append_assoc] at hnum hlen
  obtain ⟨hinit, hnumber, -⟩ := (Numbered.append_iff _ _ _).mp hnum
  rw [List.length_append, List.length_singleton] at hlen
  refine ⟨by omega, ?_⟩
  rw [Holds, hchunks]
  exact ⟨hinit, hnumber.symm⟩

/-- Code goes on with the next line. -/
theorem push_fence {f : OpenFence} {first : Nat} {lines : List Line}
    (h : (Open.fence f first lines).Holds blank m n) (l : Line) :
    (Open.fence f first (l :: lines)).Holds blank m (n + 1) := by
  obtain ⟨hfirst, hpos, hlen⟩ := h
  exact ⟨hfirst, Nat.succ_pos _, by rw [List.length_cons]; omega⟩

theorem push_html {kind : HtmlKind} {first : Nat} {lines : List Line}
    (h : (Open.html kind first lines).Holds blank m n) (l : Line) :
    (Open.html kind first (l :: lines)).Holds blank m (n + 1) := by
  obtain ⟨hfirst, hpos, hlen⟩ := h
  exact ⟨hfirst, Nat.succ_pos _, by rw [List.length_cons]; omega⟩

theorem push_table {first last number : Nat} {cells cells' : List Text}
    (h : (Open.table first last cells).Holds blank m n) (hn : number = n) :
    (Open.table first number cells').Holds blank m (n + 1) := by
  obtain ⟨hfirst, hle, hlast⟩ := h
  exact ⟨hfirst, by omega, by rw [hn]⟩

/-- The blank lines that were set aside are code, too, when more code follows. -/
theorem push_indented {first : Nat} {lines after : List Line}
    (h : (Open.indented first lines after).Holds blank m n) (l : Line) :
    (Open.indented first (l :: (after ++ lines)) []).Holds blank m (n + 1) := by
  obtain ⟨hfirst, hpos, hlen, hgap⟩ := h
  have hall : m + (l :: (after ++ lines)).length = n + 1 := by
    rw [List.length_cons, List.length_append]
    omega
  refine ⟨hfirst, Nat.succ_pos _, hall, fun i hi hin => absurd hin ?_⟩
  rw [hall] at hi
  exact Nat.not_lt.mpr hi

/-- A blank line is set aside, so that it may still lie between nodes. -/
theorem push_blank {first : Nat} {lines after : List Line}
    (h : (Open.indented first lines after).Holds blank m n) (hn : blank n) (l : Line) :
    (Open.indented first lines (l :: after)).Holds blank m (n + 1) := by
  obtain ⟨hfirst, hpos, hlen, hgap⟩ := h
  refine ⟨hfirst, hpos, ?_, fun i hi hin => ?_⟩
  · rw [List.length_cons]
    omega
  · rcases Nat.lt_succ_iff_lt_or_eq.mp hin with hin | rfl
    · exact hgap i hi hin
    · exact hn

end Open.Holds

/-! ## Readers -/

namespace Reader

/-- A reader that has given every line before `n` to a node, unless the line is blank: to a complete
node or the open block, or, if containers are open, to the node that the outermost begins. -/
def Covered (blank : Nat → Prop) (n : Nat) (r : Reader) : Prop :=
  match (r.frames.map Frame.first).getLast? with
  | none => ∃ m, Covers blank m r.root ∧ r.leaf.Holds blank m n
  | some first => first < n ∧ Covers blank first r.root

section Outside

/-! ### Lines outside of containers -/

variable {blank : Nat → Prop} {m n : Nat} {root : List Node} {leaf : Open} {b : Bool} {c : Chunk}

theorem covered_addProse (hroot : Covers blank m root) (hheld : leaf.Holds blank m n)
    (hc : c.number = n) (hleaf : leaf = .none ∨ ∃ segments, leaf = .prose segments) :
    Covered blank (n + 1) (addProse ⟨[], root, leaf, b⟩ c) := by
  rcases hleaf with rfl | ⟨segments, rfl⟩
  · obtain rfl : m = n := hheld
    exact ⟨m, hroot, ⟨hc, trivial⟩, rfl⟩
  · refine ⟨m, hroot, hheld.append_prose hc ?_⟩
    cases segments with
    | nil => rfl
    | cons s before =>
      cases s with
      | lines chunks =>
        simp only [Segment.allChunks_reverse_cons, Segment.chunks, List.append_assoc]
      | underline level d => simp only [Segment.allChunks_reverse_cons, Segment.chunks]

theorem covered_start (hroot : Covers blank m root) (hheld : leaf.Holds blank m n)
    (hc : c.number = n) (hleaf : leaf = .none ∨ ∃ segments, leaf = .prose segments) {o : Opening}
    (hblank : o = .blank → blank n) (hunderline : ∀ level, o = .underline level → leaf ≠ .none) :
    Covered blank (n + 1) (start ⟨[], root, leaf, b⟩ c o) := by
  have hclosed : Covers blank n (appendNodes (leaf.close .flush) root) := hheld.close hroot .flush
  have hline : ∀ l, Covered blank (n + 1) (addLine ⟨[], root, leaf, b⟩ c.number l) := by
    intro l
    refine ⟨n + 1, hclosed.appendNodes_of_tiles ⟨hc, Nat.le_refl _, ?_⟩, rfl⟩
    rw [hc]
    rfl
  cases o with
  | blank => exact ⟨n + 1, hclosed.succ_of_blank (hblank rfl), rfl⟩
  | indented => exact ⟨n, hclosed, hc, Nat.one_pos, rfl, fun i hi hin => absurd hin (by
      simp only [List.length_singleton] at hi
      omega)⟩
  | fence f => exact ⟨n, hclosed, hc, Nat.one_pos, rfl⟩
  | html kind ended =>
    rw [start]
    split
    · exact hline _
    · exact ⟨n, hclosed, hc, Nat.one_pos, rfl⟩
  | heading level words => exact hline _
  | underline level =>
    -- Whatever the line underlines, it is a line of the prose.
    rcases hleaf with hnone | ⟨segments, rfl⟩
    · exact absurd hnone (hunderline level rfl)
    · exact ⟨m, hroot, hheld.append_prose hc (Segment.allChunks_reverse_cons _ _)⟩
  | thematicBreak => exact hline _
  | text => exact covered_addProse hroot hheld hc hleaf

/-- A line starts what it starts behind a block that has ended. -/
theorem covered_start_ofLine (hroot : Covers blank n root) (hc : c.number = n)
    (hblank : c.start.isBlank = true → blank n) (interrupt lazy : Bool) :
    Covered blank (n + 1)
      (start ⟨[], root, .none, b⟩ c (.ofLine interrupt lazy false c.start)) := by
  have hheld : Open.none.Holds blank n n := rfl
  apply covered_start hroot hheld hc (.inl rfl)
  · exact fun h => hblank (Opening.isBlank_of_ofLine h)
  · exact fun level h => absurd h (Opening.ofLine_ne_underline interrupt lazy c.start level)

/-- The head of a table is the last line of the prose before it. -/
theorem covered_startTable? {segments : List Segment} {r : Reader} (hroot : Covers blank m root)
    (hheld : (Open.prose segments).Holds blank m n) (hc : c.number = n)
    (h : startTable? ⟨[], root, .prose segments, b⟩ c = some r) : Covered blank (n + 1) r := by
  obtain ⟨chunks, before, head, hleaf, hlast, rfl⟩ := exists_of_startTable? h
  cases hleaf
  obtain ⟨hnumber, hbefore⟩ := hheld.dropLast_prose hlast
  refine ⟨head.number, hbefore.close hroot .flush, rfl, ?_, ?_⟩
  · rw [hc]
    omega
  · rw [hc]

/-- A block that began on line `m` and ends on this line. -/
theorem covered_complete (hroot : Covers blank m root) (hmn : m ≤ n) (hc : c.number = n)
    (l : Leaf) :
    Covered blank (n + 1)
      { add ⟨[], root, leaf, b⟩ [.leaf m c.number l] with leaf := .none, interrupt := false } := by
  refine ⟨n + 1, hroot.appendNodes_of_tiles ⟨rfl, ?_, ?_⟩, rfl⟩
  · rw [hc]
    exact hmn
  · rw [hc]
    rfl

theorem covered_feed (hroot : Covers blank m root) (hheld : leaf.Holds blank m n)
    (hc : c.number = n) (hblank : c.start.isBlank = true → blank n) :
    Covered blank (n + 1) (feed ⟨[], root, leaf, b⟩ c) := by
  have hclosed : Covers blank n (appendNodes (leaf.close .flush) root) := hheld.close hroot .flush
  cases leaf with
  | none => exact covered_start_ofLine hclosed hc hblank b false
  | prose segments =>
    simp only [feed]
    split
    · next r hr => exact covered_startTable? hroot hheld hc hr
    · apply covered_start hroot hheld hc (.inr ⟨segments, rfl⟩)
      · exact fun h => hblank (Opening.isBlank_of_ofLine h)
      · exact fun level _ => Open.noConfusion
  | fence f first lines =>
    have hpushed := hheld.push_fence ⟨(c.start.skipUpTo f.indent).toText, c.ending⟩
    obtain ⟨rfl, hpos, hlen⟩ := hheld
    simp only [feed]
    split
    · exact covered_complete hroot (by omega) hc _
    · exact ⟨first, hroot, hpushed⟩
  | html kind first lines =>
    have hpushed := hheld.push_html ⟨c.start.toText, c.ending⟩
    obtain ⟨rfl, hpos, hlen⟩ := hheld
    simp only [feed]
    split
    · next hcond =>
      -- The blank line that ends HTML belongs to no node.
      rw [Bool.and_eq_true] at hcond
      exact ⟨n + 1, hclosed.succ_of_blank (hblank hcond.2), rfl⟩
    · split
      · exact covered_complete hroot (by omega) hc _
      · exact ⟨first, hroot, hpushed⟩
  | indented first lines after =>
    simp only [feed]
    split
    · exact ⟨m, hroot, hheld.push_indented _⟩
    · split
      · next hspace => exact ⟨m, hroot, hheld.push_blank (hblank hspace) _⟩
      · exact covered_start_ofLine hclosed hc hblank _ false
  | table first last cells =>
    simp only [feed]
    split
    · split
      · exact covered_addProse hclosed rfl hc (.inl rfl)
      · exact ⟨m, hroot, hheld.push_table hc⟩
    · exact covered_start_ofLine hclosed hc hblank _ false

end Outside

section Step

/-! ### Any line -/

variable {blank : Nat → Prop} {n : Nat} {r r' : Reader}

theorem covered_iff_of_nil (hr : r.frames = []) :
    Covered blank n r ↔ ∃ m, Covers blank m r.root ∧ r.leaf.Holds blank m n := by
  rw [Covered, hr]
  rfl

theorem covered_iff_of_ne_nil (hr : r.frames ≠ []) :
    Covered blank n r ↔
      (r.frames.getLast hr).first < n ∧ Covers blank (r.frames.getLast hr).first r.root := by
  rw [Covered, List.getLast?_map, List.getLast?_eq_some_getLast hr]
  rfl

/-- Containers that stay open keep the lines that come in. -/
theorem Covered.inside {k : Nat} (h : Covered blank n r) (hr : r.frames ≠ []) (hnk : n ≤ k)
    (hin : Inside r r') : Covered blank k r' := by
  have hlast : (r.frames.map Frame.first).getLast? = some (r.frames.getLast hr).first := by
    rw [List.getLast?_map, List.getLast?_eq_some_getLast hr]
    rfl
  obtain ⟨hlt, hroot⟩ := (covered_iff_of_ne_nil hr).mp h
  rw [Covered, hin.firsts, hlast, hin.root hr]
  exact ⟨Nat.lt_of_lt_of_le hlt hnk, hroot⟩

/-- Containers that change as a line goes through them keep their first lines. -/
theorem Covered.setFrames (h : Covered blank n r) {fs : List Frame}
    (hfs : fs.map Frame.first = r.frames.map Frame.first) :
    Covered blank n { r with frames := fs } := by
  rw [Covered] at h ⊢
  rw [hfs]
  exact h

theorem Covered.endLeaf (h : Covered blank n r) (e : Ending) : Covered blank n (r.endLeaf e) := by
  by_cases hr : r.frames = []
  · obtain ⟨m, hroot, hheld⟩ := (covered_iff_of_nil hr).mp h
    obtain ⟨frames, root, leaf, interrupt⟩ := r
    obtain rfl : frames = [] := hr
    exact ⟨n, hheld.close hroot e, rfl⟩
  · exact h.inside hr (Nat.le_refl n) (Inside.endLeaf r e)

/-- A container ends on the line before the one that leaves it. -/
theorem Covered.endFrame (h : Covered blank n r) (hleaf : r.leaf = .none) :
    Covered blank n (r.endFrame (n - 1)) ∧ (r.endFrame (n - 1)).leaf = .none := by
  obtain ⟨frames, root, leaf, interrupt⟩ := r
  obtain rfl : leaf = .none := hleaf
  match frames, h with
  | [], h => exact ⟨h, rfl⟩
  | [f], h =>
    -- Only the outermost container makes a top-level node.
    obtain ⟨hlt, hroot⟩ := h
    replace hlt : f.first < n := hlt
    have hclose := hroot.frameClose (show f.first ≤ n - 1 by omega)
    rw [Nat.sub_add_cancel (by omega)] at hclose
    exact ⟨⟨n, hclose, rfl⟩, rfl⟩
  | f :: g :: fs, h =>
    refine ⟨?_, rfl⟩
    rw [Covered] at h ⊢
    simpa only [Reader.endFrame, List.map_cons, List.getLast?_cons_cons] using h

theorem Covered.endFrames (h : Covered blank n r) (hleaf : r.leaf = .none) (k : Nat) :
    Covered blank n (r.endFrames (n - 1) k) ∧ (r.endFrames (n - 1) k).leaf = .none := by
  induction k generalizing r with
  | zero => exact ⟨h, hleaf⟩
  | succ k ih =>
    obtain ⟨h', hleaf'⟩ := h.endFrame hleaf
    exact ih h' hleaf'

/-- What a line leaves is complete before the line starts anything. -/
theorem Covered.leave (h : Covered blank n r) (e : Ending) (k : Nat) :
    Covered blank n (Reader.endFrames (n - 1) k (r.endLeaf e)) ∧
      (Reader.endFrames (n - 1) k (r.endLeaf e)).leaf = .none :=
  (h.endLeaf e).endFrames rfl k

theorem Covered.feed {c : Chunk} (h : Covered blank n r) (hc : c.number = n)
    (hblank : r.frames = [] → c.start.isBlank = true → blank n) :
    Covered blank (n + 1) (r.feed c) := by
  by_cases hr : r.frames = []
  · obtain ⟨m, hroot, hheld⟩ := (covered_iff_of_nil hr).mp h
    obtain ⟨frames, root, leaf, interrupt⟩ := r
    obtain rfl : frames = [] := hr
    exact covered_feed hroot hheld hc (hblank rfl)
  · exact h.inside hr (Nat.le_succ n) (Inside.feed r c)

theorem Covered.start {c : Chunk} (h : Covered blank n r) (hleaf : r.leaf = .none)
    (hc : c.number = n) (hblank : r.frames = [] → c.start.isBlank = true → blank n)
    (interrupt lazy : Bool) :
    Covered blank (n + 1) (r.start c (.ofLine interrupt lazy false c.start)) := by
  by_cases hr : r.frames = []
  · obtain ⟨m, hroot, hheld⟩ := (covered_iff_of_nil hr).mp h
    obtain ⟨frames, root, leaf, interrupt'⟩ := r
    obtain rfl : frames = [] := hr
    obtain rfl : leaf = .none := hleaf
    obtain rfl : m = n := hheld
    exact covered_start_ofLine hroot hc (hblank rfl) interrupt lazy
  · exact h.inside hr (Nat.le_succ n) (Inside.start r c _)

/-- A container that starts on line `n`. -/
theorem Covered.push {f : Frame} (h : Covered blank n r) (hf : f.first = n)
    (hleaf : r.frames = [] → r.leaf = .none) (interrupt : Bool) :
    Covered blank (n + 1) { r with frames := f :: r.frames, interrupt := interrupt } := by
  by_cases hr : r.frames = []
  · obtain ⟨m, hroot, hheld⟩ := (covered_iff_of_nil hr).mp h
    rw [hleaf hr] at hheld
    obtain rfl : m = n := hheld
    rw [Covered, hr]
    exact ⟨by rw [hf]; exact Nat.lt_succ_self m, by rw [hf]; exact hroot⟩
  · obtain ⟨hlt, hroot⟩ := (covered_iff_of_ne_nil hr).mp h
    have hcons : f :: r.frames ≠ [] := List.cons_ne_nil _ _
    refine (covered_iff_of_ne_nil hcons).mpr ?_
    simp only [List.getLast_cons hr]
    exact ⟨Nat.lt_succ_of_lt hlt, hroot⟩

theorem covered_startContainers (fuel : Nat) (p : Cursor) (h : Covered blank (n + 1) r)
    (hr : r.frames ≠ []) :
    Covered blank (n + 1) (startContainers n fuel r p).1 ∧
      (startContainers n fuel r p).1.frames ≠ [] := by
  induction fuel generalizing r p with
  | zero => exact ⟨h, hr⟩
  | succ fuel ih =>
    rw [startContainers]
    split
    · exact ⟨h, hr⟩
    · next c q _ =>
      refine ih q ?_ (List.cons_ne_nil _ _)
      obtain ⟨hlt, hroot⟩ := (covered_iff_of_ne_nil hr).mp h
      refine (covered_iff_of_ne_nil (List.cons_ne_nil _ _)).mpr ?_
      simp only [List.getLast_cons hr]
      exact ⟨hlt, hroot⟩

/-- What the line has left is complete, and the containers it starts begin with it. -/
theorem Covered.enter (h : Covered blank n r) (l : Line) (lost : Nat) (c : Container) (q : Cursor) :
    Covered blank (n + 1) (r.enter n l lost c q).1 ∧ (r.enter n l lost c q).1.frames ≠ [] := by
  obtain ⟨hleave, hnone⟩ := h.leave .flush lost
  exact covered_startContainers l.text.length q (hleave.push rfl (fun _ => hnone) _)
    (List.cons_ne_nil _ _)

theorem Covered.lazyLine {c : Chunk} {lost : Nat} (h : Covered blank n r) (hc : c.number = n)
    (hr : r.frames ≠ []) (hblank : r.frames.length ≤ lost → c.start.isBlank = true → blank n) :
    Covered blank (n + 1) (r.lazyLine n lost c) := by
  obtain ⟨hleave, hnone⟩ := h.leave .lazy lost
  have hblank' : (Reader.endFrames (n - 1) lost (r.endLeaf .lazy)).frames = [] →
      c.start.isBlank = true → blank n := by
    intro hnil
    have hlen := length_frames_leave (n - 1) lost .lazy r
    rw [hnil, List.length_nil] at hlen
    exact hblank (by omega)
  rw [Reader.lazyLine]
  simp only
  split
  · exact h.inside hr (Nat.le_succ n) ((Inside.refl r).of_eq rfl rfl)
  · exact hleave.start (c := { c with mayHead := false }) hnone hc hblank' r.inParagraph true
  · exact hleave.start hnone hc hblank' r.inParagraph true

/-- A line goes to the node that it belongs to, or starts one, or is blank. -/
theorem Covered.line {l : Line} (h : Covered blank n r)
    (hblank : (Cursor.ofLine l.text).isBlank = true → blank n) :
    Covered blank (n + 1) (r.line n l) := by
  obtain ⟨fs, lost, p, hfinds, hstep⟩ := exists_step_line r n l
  have hfound : Covered blank n { r with frames := fs } := h.setFrames hfinds.firsts
  have hblank' : fs.length ≤ lost → p.isBlank = true → blank n := by
    intro hall
    rw [hfinds.whole hall]
    exact hblank
  generalize r.line n l = r' at hstep ⊢
  cases hstep with
  | feed hlost =>
    refine hfound.feed rfl fun hnil => hblank' ?_
    rw [List.length_eq_zero_iff.mpr hnil]
    exact Nat.zero_le lost
  | start c q hopen hstart =>
    obtain ⟨hentered, hne⟩ := hfound.enter l lost c q
    exact hentered.inside hne (Nat.le_refl _) (Inside.feed _ _)
  | leave hlost => exact hfound.lazyLine rfl (hfinds.frames_ne_nil hlost) hblank'

theorem Covered.lines {ls : List Line} (h : Covered blank n r)
    (hblank : ∀ i l, ls[i]? = some l → (Cursor.ofLine l.text).isBlank = true → blank (n + i)) :
    Covered blank (n + ls.length) (Reader.lines n r ls) :=
  lines_preserve (P := Covered blank) h fun i l _ hl hcovered => hcovered.line (hblank i l hl)

theorem Covered.finish (h : Covered blank n r) :
    ∃ ns, Covers blank n ns ∧ r.finish (n - 1) = ns.reverse := by
  obtain ⟨hcovered, hnone⟩ := h.leave .flush r.frames.length
  have hlen := length_frames_leave (n - 1) r.frames.length .flush r
  rw [Nat.sub_self, List.length_eq_zero_iff] at hlen
  obtain ⟨m, hroot, hheld⟩ := (covered_iff_of_nil hlen).mp hcovered
  rw [hnone] at hheld
  obtain rfl : m = n := hheld
  exact ⟨_, hroot, rfl⟩

end Step

end Reader

/-! ## The nodes of a document -/

/-- The nodes, in order, have ascending lines from line `hint` on and before line `count`, and only
blank lines stand in front of each. -/
def Follows (blank : Nat → Prop) (count : Nat) : (hint : Nat) → List Node → Prop
  | _, [] => True
  | hint, m :: ms =>
    hint ≤ m.first ∧ (∀ i < m.first, hint ≤ i → blank i) ∧ m.first ≤ m.last ∧ m.last < count ∧
      Follows blank count (m.last + 1) ms

variable {blank : Nat → Prop} {count : Nat}

theorem Covers.follows_append {n : Nat} {ns rest : List Node} (h : Covers blank n ns)
    (hn : n ≤ count)
    (hrest : ∀ hint ≤ n, (∀ i < n, hint ≤ i → blank i) → Follows blank count hint rest) :
    Follows blank count 0 (ns.reverse ++ rest) := by
  induction ns generalizing n rest with
  | nil => exact hrest 0 (Nat.zero_le n) fun i hi _ => h i hi
  | cons m ms ih =>
    obtain ⟨-, hle, hlt, hgap, hbefore⟩ := h
    rw [List.reverse_cons, List.append_assoc, List.singleton_append]
    apply ih hbefore (by omega)
    intro hint hhint hblank
    refine ⟨hhint, hblank, hle, by omega, ?_⟩
    exact hrest (m.last + 1) hlt fun i hi hmi => hgap i hi hmi

/-- The top-level nodes of a document lie on disjoint lines, and only blank lines lie between. -/
theorem follows_readNodes {ls : List Line}
    (hblank : ∀ i l, ls[i]? = some l → (Cursor.ofLine l.text).isBlank = true → blank i) :
    Follows blank ls.length 0 (readNodes ls) := by
  have hstart : Reader.Covered blank 0 {} :=
    ⟨0, fun i hi => absurd hi (Nat.not_lt_zero i), rfl⟩
  have hread : Reader.Covered blank ls.length (Reader.lines 0 {} ls) := by
    rw [← Nat.zero_add ls.length]
    apply hstart.lines
    intro i l hl
    rw [Nat.zero_add]
    exact hblank i l hl
  obtain ⟨ns, hcovers, heq⟩ := hread.finish
  rw [readNodes, heq, ← List.append_nil ns.reverse]
  exact hcovers.follows_append (Nat.le_refl _) fun _ _ _ => trivial

end DocLint.Markdown
