import DocLint.Proofs.Markdown.Code
import DocLint.Proofs.Misses
import DocLint.Proofs.Recovery

/-!
# Blocks of code

A block forgets whether its node was fenced code, and looks at the lines again. It takes what
follows white space for the fence, however far that is indented. So a block of fenced code always
has the right fence, but indented code may be taken for fenced, and a line of the code that is too
far indented to close it may be taken for its end. Both change what is reported about the block, and
nothing else does.
-/

namespace DocLint

theorem Fence.isFenced_of_marker {f : Fence} {c : Char} (h : f.marker = some c) :
    f.isFenced = true := by
  cases f with
  | indented => cases h
  | _ => rfl

namespace Markdown

/-! ## The lines of code -/

/-- The last of the lines looks as if it closes the code that the first opens. -/
def LooksTerminated (lines : List Text) (marker : Char) (size first last : Nat) : Prop :=
  first < last ∧ ∃ l, lines[last]? = some l ∧ LooksClosing marker size l

/-- Some line behind the first does not close the code that the first opens. -/
def HasBody (lines : List Text) (marker : Char) (size first last : Nat) : Prop :=
  ∃ i l, first < i ∧ i ≤ last ∧ lines[i]? = some l ∧ ¬ClosesFence marker size l

section Fenced

variable {lines : List Text} {marker : Char} {size first last : Nat}

theorem Terminated.looksTerminated (h : Terminated lines marker size first last) :
    LooksTerminated lines marker size first last := by
  obtain ⟨hlt, l, hl, hcloses⟩ := h
  exact ⟨hlt, l, hl, .of_closesFence hcloses⟩

/-- What blocks look at: the last of the lines behind the opening one, if there is any. -/
theorem looksTerminated_iff (hmarker : marker = '`' ∨ marker = '~') (hlast : last < lines.length) :
    (sourceLines lines (first + 1) last).getLast?.any (closesFence marker size) = true ↔
      LooksTerminated lines marker size first last := by
  by_cases hlt : first < last
  · obtain ⟨l, hl⟩ : ∃ l, lines[last]? = some l := ⟨_, List.getElem?_eq_getElem hlast⟩
    rw [getLast?_sourceLines hlt hlast, hl, Option.any_some, closesFence_iff hmarker]
    simp only [LooksTerminated, hlt, hl, true_and, Option.some.injEq, exists_eq_left']
  · -- The opening line is all of the code, and nothing closes it.
    have hlen : (sourceLines lines (first + 1) last).length = last + 1 - (first + 1) :=
      length_sourceLines hlast
    have hnil : sourceLines lines (first + 1) last = [] :=
      List.length_eq_zero_iff.mp (by omega)
    rw [hnil]
    exact ⟨nofun, fun hlooks => absurd hlooks.1 hlt⟩

/-- Code that is not closed is code that goes on to the end. -/
theorem IsFenced.runsToEnd_iff (h : IsFenced lines marker size first last) :
    RunsToEnd lines marker size first last ↔ ¬Terminated lines marker size first last := by
  constructor
  · rintro ⟨-, hnone⟩ ⟨hlt, l, hl, hcloses⟩
    exact hnone last l hlt hl hcloses
  · exact h.ends.resolve_left

theorem IsFenced.hasBody_iff (h : IsFenced lines marker size first last)
    (hlast : last < lines.length) :
    HasBody lines marker size first last ↔
      first + 1 < last ∨ first < last ∧ ¬Terminated lines marker size first last := by
  constructor
  · rintro ⟨i, l, hi, hile, hl, hopen⟩
    by_cases hin : first + 1 < last
    · exact .inl hin
    · -- The line can only be the last, which then does not close the code.
      obtain rfl : i = last := by omega
      refine .inr ⟨hi, ?_⟩
      rintro ⟨-, l', hl', hcloses⟩
      rw [hl] at hl'
      cases hl'
      exact hopen hcloses
  · rintro (hin | ⟨hlt, hopen⟩)
    · have hl : lines[first + 1]? = some lines[first + 1] := List.getElem?_eq_getElem (by omega)
      exact ⟨first + 1, _, by omega, by omega, hl, h.inside _ _ (by omega) hin hl⟩
    · have hl : lines[last]? = some lines[last] := List.getElem?_eq_getElem hlast
      exact ⟨last, _, hlt, Nat.le_refl _, hl, fun hcloses => hopen ⟨hlt, _, hl, hcloses⟩⟩

/-- A line of the code is in the body, if the last line is taken for the end only where it is. -/
theorem IsFenced.length_body_pos {closed : Bool} (h : IsFenced lines marker size first last)
    (hlast : last < lines.length)
    (hclosed : closed = true ↔ Terminated lines marker size first last)
    (hbody : HasBody lines marker size first last) : 0 < last - first - closed.toNat := by
  rcases (h.hasBody_iff hlast).mp hbody with hin | ⟨hlt, hopen⟩
  · have htoNat := Bool.toNat_le closed
    omega
  · rw [← hclosed, Bool.not_eq_true] at hopen
    rw [hopen, Bool.toNat_false]
    omega

end Fenced

/-! ## Blocks of code nodes -/

section Kind

variable (env : Env) {lines : List Text} {first last : Nat} (value : Text)

/-- Indented code begins with its line as it stands, and has the fence that the line looks like. -/
theorem exists_kind_indented {l : Text} (hle : first ≤ last) (hl : lines[first]? = some l) :
    ∃ body closed, (blockOf env lines (.leaf first last (.code false value))).kind =
      .code (fenceOf l) body closed := by
  have hkind : (blockOf env lines (.leaf first last (.code false value))).kind =
      codeOf (l :: sourceLines lines (first + 1) last) := by
    rw [← sourceLines_eq_cons hle hl]
    rfl
  rw [hkind]
  exact exists_codeOf l _

/-- Fenced code has its own fence, and is closed if its last line looks so. -/
theorem exists_kind_fenced {marker : Char} {size : Nat}
    (h : IsFenced lines marker size first last) (hle : first ≤ last) (hlast : last < lines.length) :
    ∃ fence body closed,
      (blockOf env lines (.leaf first last (.code true value))).kind = .code fence body closed ∧
        fence.marker = some marker ∧
        (closed = true ↔ LooksTerminated lines marker size first last) ∧
        body.length = last - first - closed.toNat := by
  obtain ⟨opening, hl, hopens⟩ := h.opens
  obtain ⟨words, hwords, hdrop⟩ := hopens.exists_dropWhile
  obtain ⟨-, -, -, hsize, hmarker, -⟩ := hopens
  -- The indentation of the fence belongs to no node.
  have hsource : Node.source lines (.leaf first last (.code true value)) =
      (List.replicate size marker ++ words) :: sourceLines lines (first + 1) last := by
    unfold Node.source
    simp only [Node.first, Node.last, sourceLines_eq_cons hle hl, hdrop]
  have hkind : (blockOf env lines (.leaf first last (.code true value))).kind =
      codeOf ((List.replicate size marker ++ words) :: sourceLines lines (first + 1) last) := by
    rw [← hsource]
    rfl
  obtain ⟨fence, hfence, hcode⟩ := codeOf_of_fence (.of_replicate hmarker hsize hwords)
    (sourceLines lines (first + 1) last)
  have hlen : (sourceLines lines (first + 1) last).length = last + 1 - (first + 1) :=
    length_sourceLines hlast
  refine ⟨fence, _, _, hkind.trans hcode, hfence, looksTerminated_iff hmarker hlast, ?_⟩
  split
  · next hclosed =>
    -- The closing line is no line of the code.
    rw [hclosed, List.length_dropLast, hlen, Bool.toNat_true]
    omega
  · next hopen =>
    rw [Bool.not_eq_true] at hopen
    rw [hopen, hlen, Bool.toNat_false]
    omega

end Kind

/-! ## Documents -/

theorem kind_blocks {t : Text} {i : Nat} {n : Node} (h : (nodes t)[i]? = some n) :
    ((blocks t)[i]?).map Block.kind =
      some (blockOf (Node.envAll (nodes t)) (readLines t) n).kind := by
  rw [blocks_eq, List.getElem?_map, h]
  rfl

theorem codeIn_nodes (t : Text) : ∀ n ∈ nodes t, n.CodeIn (readLines t) :=
  codeIn_readNodes _

theorem lines_of_leaf {t : Text} {first last : Nat} {l : Leaf} (h : .leaf first last l ∈ nodes t) :
    first ≤ last ∧ last < (readLines t).length :=
  (follows_nodes t).mem h

theorem isBlankDocument_of_line {t l : Text} {i : Nat} (hl : (readLines t)[i]? = some l)
    (hcontent : Text.isBlank l = false) : (LineIndex.ofText t).isBlankDocument = false := by
  obtain ⟨k, hk, hblank⟩ : ∃ k, (LineIndex.ofText t).line? i = some k ∧ Text.isBlank k = false := by
    rcases line?_ofText hl with hline | hline
    · exact ⟨l, hline, hcontent⟩
    · refine ⟨_, hline, ?_⟩
      rw [Text.isBlank, List.all_cons, Bool.and_eq_false_iff]
      exact .inr hcontent
  unfold LineIndex.isBlankDocument
  rw [List.all_eq_false]
  exact ⟨k, List.mem_of_getElem? hk, by rw [hblank]; exact Bool.false_ne_true⟩

theorem OpensFence.isBlank {marker : Char} {size : Nat} {l : Text} (h : OpensFence marker size l) :
    Text.isBlank l = false := by
  obtain ⟨indent, words, -, hsize, hmarker, -, -, rfl⟩ := h
  unfold Text.isBlank
  rw [List.all_eq_false]
  refine ⟨marker, ?_, by rw [isWhite_of_marker hmarker]; exact Bool.false_ne_true⟩
  rw [List.mem_append, List.mem_append, List.mem_replicate, List.mem_replicate]
  exact .inr (.inl ⟨by omega, rfl⟩)

end Markdown

/-! ## What is reported about code -/

def Rule.Reported (r : Rule) (ds : List Diagnostic) : Prop :=
  ∃ d ∈ ds, d.rule = r.id

namespace Rules

open Markdown

variable {σ : Type} (l : Locator σ) (s : σ) (exempt : Text → Bool) (file : Text)

/-- A rule that looks at no other line is reported of a block if the block breaks it by itself. -/
theorem reported_ofBlock_iff {r : Rule} (hr : ∀ d : Diagnostic, d.rule = r.id → d.isOwn = true)
    (x : LineIndex) (isFirst isLast : Bool) (p : Placed) :
    r.Reported (ofBlock x exempt file isFirst isLast p) ↔
      r.Reported ((p.block.ownRules exempt isLast).map fun r => r.finding file (p.startLine x)) := by
  rw [← filter_isOwn_ofBlock]
  constructor
  · rintro ⟨d, hd, hrule⟩
    exact ⟨d, List.mem_filter.mpr ⟨hd, hr d hrule⟩, hrule⟩
  · rintro ⟨d, hd, hrule⟩
    exact ⟨d, (List.mem_filter.mp hd).1, hrule⟩

/-- Code is reported for what it is, wherever the block was found. -/
theorem reported_codeUnclosed_iff {x : LineIndex} (hdoc : x.isBlankDocument = false)
    {bs : List Block} {i : Nat} {fence : Fence} {body : List Text} {closed : Bool}
    (hkind : (bs[i]?).map Block.kind = some (.code fence body closed)) :
    Rule.codeUnclosed.Reported
        (findingsAt x exempt file true (check l s exempt file x bs).searches i) ↔
      fence.isFenced = true ∧ (body = [] ∨ closed = false) := by
  obtain ⟨b, hb, hcode⟩ := Option.map_eq_some_iff.mp hkind
  obtain ⟨p, hp, rfl⟩ : ∃ p, (check l s exempt file x bs).searches[i]? = some p ∧ p.block = b := by
    rw [check_of_content hdoc, ← Option.map_eq_some_iff, ← List.getElem?_map]
    rw [Layout.place, Layout.map_block_placeFrom]
    exact hb
  rw [findingsAt_of_getElem? hp]
  generalize (true && i == 0) = isFirst
  generalize (i + 1 == _) = isLast
  have hown : ∀ d : Diagnostic, d.rule = Rule.codeUnclosed.id → d.isOwn = true := by
    intro d hd
    rw [Diagnostic.isOwn, hd]
    rfl
  rw [reported_ofBlock_iff exempt file hown, Block.ownRules, hcode]
  simp only
  split
  · next hbroken =>
    simp only [Bool.and_eq_true, Bool.or_eq_true, List.isEmpty_iff, Bool.not_eq_true'] at hbroken
    exact ⟨fun _ => hbroken, fun _ => ⟨_, List.mem_singleton_self _, rfl⟩⟩
  · next hfine =>
    simp only [Bool.and_eq_true, Bool.or_eq_true, List.isEmpty_iff, Bool.not_eq_true'] at hfine
    constructor
    · rintro ⟨d, hd, -⟩
      exact absurd hd List.not_mem_nil
    · exact fun hbroken => absurd hbroken hfine

/-- Code without fences is never reported, also in a blank document. -/
theorem not_reported_of_indented {x : LineIndex} {bs : List Block} {i : Nat} {body : List Text}
    {closed : Bool} (hkind : (bs[i]?).map Block.kind = some (.code .indented body closed)) :
    ¬Rule.codeUnclosed.Reported
      (findingsAt x exempt file true (check l s exempt file x bs).searches i) := by
  cases hdoc : x.isBlankDocument with
  | false =>
    rw [reported_codeUnclosed_iff l s exempt file hdoc hkind]
    exact fun h => Bool.false_ne_true h.1
  | true =>
    rw [check, if_pos hdoc]
    rintro ⟨d, hd, -⟩
    cases hd

/-- A block of fenced code has the fence of its node. Indented code is taken for fenced if and only
if its first line looks like a fence, and is never reported to be unclosed if it does not. -/
theorem fence_of_code (t : Text) {i first last : Nat} {fenced : Bool} {value : Text}
    (hnode : (nodes t)[i]? = some (.leaf first last (.code fenced value))) :
    let x := LineIndex.ofText t
    ∃ line fence body closed, (readLines t)[first]? = some line ∧
      ((blocks t)[i]?).map Block.kind = some (.code fence body closed) ∧
      (fenced = true →
        ∃ marker size, OpensFence marker size line ∧ fence.marker = some marker) ∧
      (fenced = false →
        tabSize ≤ (Cursor.ofLine line).indent ∧
          (fence = .indented ↔ ¬LooksOpening line) ∧
          (¬LooksOpening line → ¬Rule.codeUnclosed.Reported
            (findingsAt x exempt file true
              (check l s exempt file x (blocks t)).searches i))) := by
  intro x
  have hmem : Node.leaf first last (.code fenced value) ∈ nodes t :=
    List.mem_of_getElem? hnode
  obtain ⟨hle, hlast⟩ := lines_of_leaf hmem
  have hcode := codeIn_nodes t _ hmem
  have hkind := kind_blocks hnode
  cases fenced with
  | true =>
    obtain ⟨marker, size, hfenced⟩ := hcode
    obtain ⟨line, hline, hopens⟩ := hfenced.opens
    obtain ⟨fence, body, closed, hblock, hmarker, -⟩ :=
      exists_kind_fenced (Node.envAll (nodes t)) value hfenced hle hlast
    rw [hblock] at hkind
    exact ⟨line, fence, body, closed, hline, hkind, fun _ => ⟨marker, size, hopens, hmarker⟩, nofun⟩
  | false =>
    obtain ⟨line, hline, hindent⟩ := hcode
    obtain ⟨body, closed, hblock⟩ :=
      exists_kind_indented (Node.envAll (nodes t)) value hle hline
    rw [hblock] at hkind
    refine ⟨line, _, body, closed, hline, hkind, nofun, fun _ => ⟨hindent, ?_, ?_⟩⟩
    · exact fenceOf_eq_indented_iff line
    · intro hlooks
      rw [(fenceOf_eq_indented_iff line).mpr hlooks] at hkind
      exact not_reported_of_indented l s exempt file hkind

/-- Indented code with a fence on its second line, and fenced code with tildes. -/
def indentedText : Text :=
  "    a\n    ```\n\n ~~~\nb".toList

theorem fence_of_code_indentedText :
    let x := LineIndex.ofText indentedText
    (∃ value, (nodes indentedText)[0]? = some (.leaf 0 1 (.code false value))) ∧
      ((blocks indentedText)[0]?).map Block.kind =
        some (.code .indented ["    a".toList, "    ```".toList] true) ∧
      ¬Rule.codeUnclosed.Reported (findingsAt x (fun _ => false) [] true
        (check (Locator.forward x) () (fun _ => false) [] x (blocks indentedText)).searches 0) := by
  intro x
  have hnode : (nodes indentedText)[0]? = some (.leaf 0 1 (.code false "a\n```".toList)) := by
    cbv
  obtain ⟨line, fence, body, closed, hline, -, -, hindented⟩ :=
    fence_of_code (Locator.forward x) () (fun _ => false) [] indentedText hnode
  cases hline
  refine ⟨⟨_, hnode⟩, by decide, (hindented rfl).2.2 ?_⟩
  exact (fenceOf_eq_indented_iff _).mp (by decide)

/-- Indented code whose first line would open a fence if it were not indented. -/
def fencedLookText : Text :=
  "    ```\n    x".toList

theorem indented_code_taken_for_fenced :
    let x := LineIndex.ofText fencedLookText
    (∃ value, (nodes fencedLookText)[0]? = some (.leaf 0 1 (.code false value))) ∧
      ((blocks fencedLookText)[0]?).map Block.kind =
        some (.code .backtick ["    x".toList] false) ∧
      (check (Locator.forward x) () (fun _ => false) [] x (blocks fencedLookText)).findings =
        [Rule.codeUnclosed.finding [] 1] := by
  exact ⟨⟨"```\nx".toList, by cbv⟩, by decide, by decide⟩

/-- A block of fenced code is closed if its last line looks as if it closed the code. Where no line
only looks so, this is the line that closes the code, and code that has a line is reported if and
only if it goes on to the end of the document. -/
theorem closed_iff_terminated (t : Text) {i first last : Nat} {value : Text}
    (hnode : (nodes t)[i]? = some (.leaf first last (.code true value))) :
    let x := LineIndex.ofText t
    let lines := readLines t
    ∃ marker size fence body closed, IsFenced lines marker size first last ∧
      ((blocks t)[i]?).map Block.kind = some (.code fence body closed) ∧
      (closed = true ↔ LooksTerminated lines marker size first last) ∧
      ((closed = true ↔ Terminated lines marker size first last) ↔
        (LooksTerminated lines marker size first last →
          Terminated lines marker size first last)) ∧
      ((LooksTerminated lines marker size first last →
          Terminated lines marker size first last) →
        HasBody lines marker size first last →
        (Rule.codeUnclosed.Reported
            (findingsAt x exempt file true
              (check l s exempt file x (blocks t)).searches i) ↔
          RunsToEnd lines marker size first last)) := by
  intro x lines
  have hmem : Node.leaf first last (.code true value) ∈ nodes t :=
    List.mem_of_getElem? hnode
  obtain ⟨hle, hlast⟩ := lines_of_leaf hmem
  obtain ⟨marker, size, hfenced⟩ := codeIn_nodes t _ hmem
  obtain ⟨fence, body, closed, hblock, hmarker, hclosed, hlen⟩ :=
    exists_kind_fenced (Node.envAll (nodes t)) value hfenced hle hlast
  have hkind := kind_blocks hnode
  rw [hblock] at hkind
  have hiff : (closed = true ↔ Terminated lines marker size first last) ↔
      (LooksTerminated lines marker size first last →
        Terminated lines marker size first last) := by
    rw [hclosed]
    exact ⟨fun h => h.mp, fun h => ⟨h, Terminated.looksTerminated⟩⟩
  refine ⟨marker, size, fence, body, closed, hfenced, hkind, hclosed, hiff, ?_⟩
  intro hlooks hbody
  have hterminated := hiff.mpr hlooks
  obtain ⟨line, hline, hopens⟩ := hfenced.opens
  have hdoc := isBlankDocument_of_line hline hopens.isBlank
  have hne : body ≠ [] := by
    rw [← List.length_pos_iff, hlen]
    exact hfenced.length_body_pos hlast hterminated hbody
  rw [reported_codeUnclosed_iff l s exempt file hdoc hkind, hfenced.runsToEnd_iff, ← hterminated,
    Bool.not_eq_true]
  exact ⟨fun h => h.2.resolve_left hne, fun h => ⟨Fence.isFenced_of_marker hmarker, .inr h⟩⟩

/-- Code whose last line has too few markers to close it. -/
def shortFenceText : Text :=
  "````\n\n   ``` ".toList

theorem closed_iff_terminated_shortFenceText :
    let x := LineIndex.ofText shortFenceText
    (∃ value, (nodes shortFenceText)[0]? = some (.leaf 0 2 (.code true value))) ∧
      RunsToEnd (readLines shortFenceText) '`' 4 0 2 ∧
      Rule.codeUnclosed.Reported (findingsAt x (fun _ => false) [] true
        (check (Locator.forward x) () (fun _ => false) [] x (blocks shortFenceText)).searches
        0) := by
  intro x
  have hnode : (nodes shortFenceText)[0]? =
      some (.leaf 0 2 (.code true "\n   ``` ".toList)) := by cbv
  have hblock : ((blocks shortFenceText)[0]?).map Block.kind =
      some (.code .backtick [[], "   ``` ".toList] false) := by decide
  obtain ⟨marker, size, fence, body, closed, hfenced, hkind, hclosed, -, hreported⟩ :=
    closed_iff_terminated (Locator.forward x) () (fun _ => false) [] shortFenceText hnode
  rw [hblock] at hkind
  cases hkind
  -- The block is not closed, so the last line does not even look so.
  have hopen : ¬LooksTerminated (readLines shortFenceText) marker size 0 2 :=
    fun h => Bool.false_ne_true (hclosed.mpr h)
  have hruns := hfenced.runsToEnd_iff.mpr fun h => hopen h.looksTerminated
  have hbody := (hfenced.hasBody_iff (by decide)).mpr (.inl (by decide))
  obtain ⟨line, hline, hopens⟩ := hfenced.opens
  cases hline
  have hfence : OpensFence '`' 4 "````".toList :=
    ⟨0, [], by decide, by decide, .inl rfl, by decide, fun _ => List.not_mem_nil, rfl⟩
  obtain ⟨rfl, rfl⟩ := hopens.unique hfence
  exact ⟨⟨_, hnode⟩, hruns, (hreported (fun h => absurd h hopen) hbody).mpr hruns⟩

/-- Code whose last line has enough markers, but is too far indented to close it. -/
def deepFenceText : Text :=
  "```\nx\n    ```".toList

theorem unclosed_code_taken_for_closed :
    let x := LineIndex.ofText deepFenceText
    (∃ value, (nodes deepFenceText)[0]? = some (.leaf 0 2 (.code true value))) ∧
      RunsToEnd (readLines deepFenceText) '`' 3 0 2 ∧
      ((blocks deepFenceText)[0]?).map Block.kind = some (.code .backtick ["x".toList] true) ∧
      (check (Locator.forward x) () (fun _ => false) [] x (blocks deepFenceText)).findings =
        [] := by
  have hlines : readLines deepFenceText =
      ["```".toList, "x".toList, "    ```".toList] := by decide
  have hopen : ∀ l ∈ ["x".toList, "    ```".toList],
      OpenFence.isClosedBy ⟨'`', 3, 0⟩ (.ofLine l) = false := by decide
  refine ⟨⟨"x\n    ```".toList, by cbv⟩, ⟨by decide, ?_⟩, by decide, by decide⟩
  intro i l hi hl
  rw [hlines, show i = i - 1 + 1 by omega, List.getElem?_cons_succ] at hl
  rw [← OpenFence.isClosedBy_ofLine_iff (f := ⟨'`', 3, 0⟩) (.inl rfl) (Nat.le_refl 3),
    hopen l (List.mem_of_getElem? hl)]
  exact Bool.false_ne_true

end Rules

end DocLint
