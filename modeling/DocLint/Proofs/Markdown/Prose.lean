import DocLint.Markdown.Document
import DocLint.Proofs.Markdown.Definition

/-!
# The lines of prose

Prose is made of neighbouring lines, and its nodes share them out: the definitions, paragraphs and
headings that `Prose.nodes` answers cover the lines of the prose one after another, without a gap.
-/

namespace DocLint.Markdown

/-! ## Tilings -/

/-- The nodes are leaves that cover the lines from `a` to the line before `b`, each from the line
behind the leaf before it. -/
def Tiles : (a : Nat) → List Node → (b : Nat) → Prop
  | a, [], b => a = b
  | a, .leaf first last _ :: ns, b => first = a ∧ first ≤ last ∧ Tiles (last + 1) ns b
  | _, _ :: _, _ => False

theorem Tiles.append {a b c : Nat} {ns ms : List Node} (h : Tiles a ns b) (h' : Tiles b ms c) :
    Tiles a (ns ++ ms) c := by
  induction ns generalizing a with
  | nil =>
    obtain rfl : a = b := h
    exact h'
  | cons n ns ih =>
    cases n with
    | leaf first last l =>
      obtain ⟨hfirst, hle, hrest⟩ := h
      exact ⟨hfirst, hle, ih hrest⟩
    | _ => cases h

/-! ## Numbered lines -/

/-- The chunks are neighbouring lines from number `a` on. -/
def Numbered : (a : Nat) → List Chunk → Prop
  | _, [] => True
  | a, c :: cs => c.number = a ∧ Numbered (a + 1) cs

namespace Numbered

theorem append_iff (a : Nat) (cs ds : List Chunk) :
    Numbered a (cs ++ ds) ↔ Numbered a cs ∧ Numbered (a + cs.length) ds := by
  induction cs generalizing a with
  | nil => simp [Numbered]
  | cons c cs ih =>
    rw [List.cons_append, Numbered, Numbered, ih, List.length_cons, and_assoc,
      show a + (cs.length + 1) = a + 1 + cs.length by omega]

theorem drop {a : Nat} {cs : List Chunk} (h : Numbered a cs) {k : Nat} (hk : k ≤ cs.length) :
    Numbered (a + k) (cs.drop k) := by
  rw [← List.take_append_drop k cs, append_iff, List.length_take, Nat.min_eq_left hk] at h
  exact h.2

theorem take {a : Nat} {cs : List Chunk} (h : Numbered a cs) (k : Nat) :
    Numbered a (cs.take k) := by
  rw [← List.take_append_drop k cs, append_iff] at h
  exact h.1

theorem number_head {a : Nat} {cs : List Chunk} (h : Numbered a cs) (hne : cs ≠ []) :
    (cs.head?.map Chunk.number).getD 0 = a := by
  cases cs with
  | nil => exact absurd rfl hne
  | cons c cs => exact h.1

theorem number_getLast {a : Nat} {cs : List Chunk} {c : Chunk} (h : Numbered a cs)
    (hc : cs.getLast? = some c) : c.number + 1 = a + cs.length := by
  obtain ⟨ds, rfl⟩ := List.getLast?_eq_some_iff.mp hc
  rw [append_iff] at h
  rw [h.2.1, List.length_append, List.length_singleton, ← Nat.add_assoc]

theorem number_last {a : Nat} {cs : List Chunk} (h : Numbered a cs) (hne : cs ≠ []) :
    (cs.getLast?.map Chunk.number).getD 0 + 1 = a + cs.length := by
  rw [List.getLast?_eq_some_getLast hne]
  exact h.number_getLast (List.getLast?_eq_some_getLast hne)

end Numbered

namespace Prose

theorem tiles_node {a : Nat} {cs : List Chunk} (h : Numbered a cs) (hne : cs ≠ []) (l : Leaf) :
    Tiles a [node cs l] (a + cs.length) := by
  have hfirst := h.number_head hne
  have hlast := h.number_last hne
  have hpos : 0 < cs.length := List.length_pos_iff.mpr hne
  exact ⟨hfirst, by omega, hlast⟩

theorem tiles_paragraph {a : Nat} {cs : List Chunk} (h : Numbered a cs) :
    Tiles a (paragraph cs) (a + cs.length) := by
  rw [paragraph]
  split
  · next hempty =>
    rw [List.isEmpty_iff.mp hempty]
    rfl
  · next hempty => exact tiles_node h (fun hnil => hempty (List.isEmpty_iff.mpr hnil)) _

/-! ## Definitions -/

def lineEnds (gs : List Glyph) : Nat :=
  (gs.filter fun g => atLineEnd [g]).length

theorem lineEnds_append (gs hs : List Glyph) : lineEnds (gs ++ hs) = lineEnds gs + lineEnds hs := by
  simp [lineEnds]

theorem lineEnds_le_of_isSuffix {gs hs : List Glyph} (h : gs <:+ hs) : lineEnds gs ≤ lineEnds hs :=
  (h.sublist.filter _).length_le

/-- Within a line no line ends. -/
theorem lineEnds_toGlyphs (p : Cursor) : lineEnds p.toGlyphs = 0 := by
  have hchars : ∀ t : Text, lineEnds (t.map .char) = 0 := by
    intro t
    rw [lineEnds, List.length_eq_zero_iff, List.filter_eq_nil_iff]
    intro g hg
    obtain ⟨c, -, rfl⟩ := List.mem_map.mp hg
    exact Bool.false_ne_true
  rw [Cursor.toGlyphs]
  split
  · split
    · exact hchars _
    · exact hchars _
  · rfl

theorem lineEnds_glyphs_lt {cs : List Chunk} (hne : cs ≠ []) :
    lineEnds (Chunk.glyphs cs) < cs.length := by
  induction cs with
  | nil => exact absurd rfl hne
  | cons c cs ih =>
    cases cs with
    | nil =>
      rw [Chunk.glyphs, lineEnds_toGlyphs]
      exact Nat.one_pos
    | cons d ds =>
      have hrest := ih (List.cons_ne_nil d ds)
      have hend : lineEnds (c.ending.toList.map .newline) ≤ 1 := by
        cases c.ending with
        | none => exact Nat.zero_le 1
        | some t => exact Nat.le_refl 1
      rw [Chunk.glyphs, lineEnds_append, lineEnds_append, lineEnds_toGlyphs, List.length_cons]
      · omega
      · exact List.cons_ne_nil d ds

/-- The number of lines that follow in glyphs which begin at the end of a line. -/
def linesLeft : List Glyph → Nat
  | [] => 0
  | _ :: after => lineEnds after + 1

theorem linesLeft_of_atLineEnd {gs : List Glyph} (h : atLineEnd gs = true) :
    linesLeft gs = lineEnds gs := by
  match gs, h with
  | [], _ => rfl
  | .newline t :: after, _ => rfl

/-- The lines that a definition leaves are fewer than those it was given. -/
theorem linesLeft_lt {cs : List Chunk} {label : Text} {rest : List Glyph}
    (h : definition? (Chunk.glyphs cs) = some (label, rest)) : linesLeft rest < cs.length := by
  obtain ⟨hsuffix, hend⟩ := definition?_spec h
  have hne : cs ≠ [] := by
    rintro rfl
    cases h
  calc
    linesLeft rest = lineEnds rest := linesLeft_of_atLineEnd hend
    _ ≤ lineEnds (Chunk.glyphs cs) := lineEnds_le_of_isSuffix hsuffix
    _ < cs.length := lineEnds_glyphs_lt hne

theorem definitions_succ_of_some {fuel : Nat} {cs : List Chunk} {label : Text} {rest : List Glyph}
    (h : definition? (Chunk.glyphs cs) = some (label, rest)) :
    definitions (fuel + 1) cs =
      (node (cs.take (cs.length - linesLeft rest)) (.definition label) ::
          (definitions fuel (cs.drop (cs.length - linesLeft rest))).1,
        (definitions fuel (cs.drop (cs.length - linesLeft rest))).2) := by
  rw [definitions, h]
  cases rest <;> rfl

/-- Definitions take lines from the front and leave the others as they are. -/
theorem definitions_spec (fuel : Nat) {a : Nat} {cs : List Chunk} (h : Numbered a cs) :
    ∃ k ≤ cs.length, Tiles a (definitions fuel cs).1 (a + k) ∧
      (definitions fuel cs).2 = cs.drop k := by
  induction fuel generalizing a cs with
  | zero => exact ⟨0, Nat.zero_le _, rfl, rfl⟩
  | succ fuel ih =>
    cases hdef : definition? (Chunk.glyphs cs) with
    | none =>
      rw [definitions, hdef]
      exact ⟨0, Nat.zero_le _, rfl, rfl⟩
    | some found =>
      obtain ⟨label, rest⟩ := found
      rw [definitions_succ_of_some hdef]
      have hlt := linesLeft_lt hdef
      -- A definition takes a line at least, so its node is not empty.
      obtain ⟨taken, htaken⟩ : ∃ taken, taken = cs.length - linesLeft rest := ⟨_, rfl⟩
      rw [← htaken]
      have hlen : (cs.take taken).length = taken := by
        rw [List.length_take]
        omega
      have hne : cs.take taken ≠ [] := by
        rw [← List.length_pos_iff, hlen]
        omega
      have hnode := tiles_node (h.take taken) hne (.definition label)
      rw [hlen] at hnode
      obtain ⟨k, hk, htiles, hrest⟩ := ih (h.drop (by omega : taken ≤ cs.length))
      rw [List.length_drop] at hk
      refine ⟨taken + k, by omega, ?_, ?_⟩
      · rw [← Nat.add_assoc]
        exact hnode.append htiles
      · rw [hrest, List.drop_drop]

/-! ## Segments -/

end Prose

/-- The lines of a part of prose. -/
def Segment.chunks : Segment → List Chunk
  | .lines cs => cs
  | .underline _ c => [c]

/-- The lines of prose whose parts are given in order. -/
def Segment.allChunks (segments : List Segment) : List Chunk :=
  segments.flatMap Segment.chunks

namespace Prose

/-- The nodes of prose cover its lines. -/
theorem tiles_nodes {a : Nat} {pending : List Chunk} {segments : List Segment} (bare : Bool)
    (h : Numbered a (pending ++ Segment.allChunks segments)) :
    Tiles a (nodes pending bare segments)
      (a + (pending ++ Segment.allChunks segments).length) := by
  -- The pending lines count with the segments that are still to be read.
  induction segments generalizing a pending bare with
  | nil =>
    rw [Segment.allChunks, List.flatMap_nil, List.append_nil] at h ⊢
    exact tiles_paragraph h
  | cons segment rest ih =>
    rw [Segment.allChunks, List.flatMap_cons, ← Segment.allChunks] at h ⊢
    cases segment with
    | lines cs =>
      rw [Segment.chunks] at h ⊢
      rw [nodes]
      simp only
      split
      · -- The lines join an underline that stands alone.
        rw [← List.append_assoc] at h ⊢
        exact ih false h
      · -- First the pending paragraph, then definitions, then what the definitions leave.
        obtain ⟨hpending, hcs⟩ := (Numbered.append_iff _ _ _).mp h
        obtain ⟨k, hk, htiles, hleft⟩ :=
          definitions_spec cs.length ((Numbered.append_iff _ _ _).mp hcs).1
        have hrest : Numbered (a + pending.length + k)
            (cs.drop k ++ Segment.allChunks rest) := by
          rw [← List.drop_append_of_le_length hk]
          exact hcs.drop (by rw [List.length_append]; omega)
        have hnodes := ih false hrest
        have hlen : a + pending.length + k + (cs.drop k ++ Segment.allChunks rest).length =
            a + (pending ++ (cs ++ Segment.allChunks rest)).length := by
          simp only [List.length_append, List.length_drop]
          omega
        rw [hlen, ← hleft] at hnodes
        exact ((tiles_paragraph hpending).append htiles).append hnodes
    | underline level c =>
      rw [Segment.chunks] at h ⊢
      rw [nodes]
      split
      · next hempty =>
        rw [List.isEmpty_iff.mp hempty] at h ⊢
        exact ih true h
      · next hempty =>
        have hne : pending ≠ [] := fun hnil => hempty (List.isEmpty_iff.mpr hnil)
        obtain ⟨hpending, hc, hrest⟩ := (Numbered.append_iff _ _ _).mp h
        have hnodes : Tiles (a + pending.length + 1) (nodes [] false rest)
            (a + pending.length + 1 + (Segment.allChunks rest).length) := ih false hrest
        have hlen : a + (pending ++ ([c] ++ Segment.allChunks rest)).length =
            a + pending.length + 1 + (Segment.allChunks rest).length := by
          simp only [List.length_append, List.length_singleton]
          omega
        rw [hlen]
        refine ⟨hpending.number_head hne, ?_, ?_⟩
        · rw [hpending.number_head hne, hc]
          exact Nat.le_add_right a _
        · rw [hc]
          exact hnodes

end Prose

end DocLint.Markdown
