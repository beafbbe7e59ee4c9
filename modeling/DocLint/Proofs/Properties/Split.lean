import DocLint.Proofs.Properties.Writer

/-!
# Splitting what was written

A row of pieces splits into the key and the value it was made from: no piece of a key ends it, the
separator takes the white space around it, and the first piece of a value is not taken for a part of
the separator.
-/

namespace DocLint.Properties

/-! ## Escapes -/

theorem unescapeChar_of_ne {c : Char} (ht : c ≠ 't') (hn : c ≠ 'n') (hr : c ≠ 'r') (hf : c ≠ 'f') :
    unescapeChar c = c := by
  rw [unescapeChar]
  · exact fun h => ht h
  · exact fun h => hn h
  · exact fun h => hr h
  · exact fun h => hf h

theorem unescapeChar_escapeChar {c : Char} (hc : unescapeChar c = c) :
    unescapeChar (escapeChar c) = c := by
  unfold escapeChar
  split
  · rfl
  · rfl
  · rfl
  · rfl
  · exact hc

/-- What has to be escaped somewhere stands for itself behind a backslash. -/
theorem unescapeChar_of_special {c : Char}
    (hc : (c == '\\' || isSign c || isCommentMark c || Text.isWhite c) = true) :
    unescapeChar c = c := by
  apply unescapeChar_of_ne <;>
  · rintro rfl
    revert hc
    decide

theorem isBreak_escapeChar (c : Char) : Line.isBreak (escapeChar c) = false := by
  unfold escapeChar
  split
  · rfl
  · rfl
  · rfl
  · rfl
  · next hn hr _ => exact (Line.isBreak_eq_false_iff c).mpr ⟨hn, hr⟩

theorem isWhite_of_isBreak {c : Char} (hc : Line.isBreak c = true) : Text.isWhite c = true := by
  rw [Line.isBreak, Bool.or_eq_true, beq_iff_eq, beq_iff_eq] at hc
  rcases hc with rfl | rfl
  · decide
  · decide

/-! ## Pieces -/

namespace Piece

/-- The character that a piece stands for. -/
def read : Piece → Char
  | .plain c => c
  | .escaped c => unescapeChar c

/-- A piece that fits into a line; only an escape has a backslash. -/
def IsSound : Piece → Prop
  | .plain c => c ≠ '\\' ∧ Line.isBreak c = false
  | .escaped c => Line.isBreak c = false

theorem read_ofValue (c : Char) : (ofValue c).read = c := by
  unfold ofValue
  split
  · next hc =>
    apply unescapeChar_escapeChar
    apply unescapeChar_of_special
    rw [Bool.or_eq_true] at hc
    rcases hc with hc | hc
    · simp [hc]
    · simp [isWhite_of_isBreak hc]
  · rfl

theorem read_ofFirst (letter : Bool) (c : Char) : (ofFirst letter c).read = c := by
  unfold ofFirst
  split
  · next hc =>
    have hself : unescapeChar c = c := by
      apply unescapeChar_of_special
      rw [Bool.or_eq_true] at hc
      rcases hc with hc | hc <;> simp [hc]
    -- Either spelling of a tab or a form feed reads as the same character.
    show unescapeChar (if letter || Line.isBreak c then escapeChar c else c) = c
    split
    · exact unescapeChar_escapeChar hself
    · exact hself
  · exact read_ofValue c

theorem isSound_ofKey (c : Char) : (ofKey c).IsSound := by
  unfold ofKey
  split
  · exact isBreak_escapeChar c
  · next hc =>
    simp only [Bool.or_eq_true, not_or, beq_iff_eq, Bool.not_eq_true] at hc
    refine ⟨hc.1.1.1, ?_⟩
    cases hbreak : Line.isBreak c with
    | false => rfl
    | true =>
      rw [isWhite_of_isBreak hbreak] at hc
      exact absurd hc.2 (by decide)

theorem isSound_ofValue (c : Char) : (ofValue c).IsSound := by
  unfold ofValue
  split
  · exact isBreak_escapeChar c
  · next hc =>
    simp only [Bool.or_eq_true, not_or, beq_iff_eq, Bool.not_eq_true] at hc
    exact hc

theorem isSound_ofFirst (letter : Bool) (c : Char) : (ofFirst letter c).IsSound := by
  unfold ofFirst
  split
  · show Line.isBreak (if letter || Line.isBreak c then escapeChar c else c) = false
    split
    · exact isBreak_escapeChar c
    · next hc =>
      rw [Bool.or_eq_true, not_or, Bool.not_eq_true, Bool.not_eq_true] at hc
      exact hc.2
  · exact isSound_ofValue c

theorem isSound_ofValueText (letter : Bool) (t : Text) : ∀ p ∈ ofValueText letter t, p.IsSound := by
  intro p hp
  cases t with
  | nil => cases hp
  | cons c cs =>
    rcases List.mem_cons.mp hp with rfl | hp
    · exact isSound_ofFirst letter c
    · obtain ⟨d, -, rfl⟩ := List.mem_map.mp hp
      exact isSound_ofValue d

theorem read_ofValueText (letter : Bool) (t : Text) : (ofValueText letter t).map read = t := by
  cases t with
  | nil => rfl
  | cons c cs =>
    have hread : read ∘ ofValue = id := funext read_ofValue
    rw [ofValueText, List.map_cons, read_ofFirst, List.map_map, hread, List.map_id]

theorem textAll_cons (p : Piece) (ps : List Piece) : textAll (p :: ps) = p.text ++ textAll ps := rfl

theorem textAll_append (ps qs : List Piece) : textAll (ps ++ qs) = textAll ps ++ textAll qs :=
  List.flatMap_append

theorem textAll_plain (t : Text) : textAll (t.map .plain) = t := by
  induction t with
  | nil => rfl
  | cons c cs ih =>
    rw [List.map_cons, textAll_cons, ih]
    rfl

end Piece

/-! ## Splitting a logical line -/

theorem unescape_cons {c : Char} (hc : c ≠ '\\') (cs : Text) :
    unescape (c :: cs) = c :: unescape cs := by
  rw [unescape]
  · exact fun h _ => hc h
  · exact fun _ _ h _ => hc h

/-- The escapes of pieces are resolved one by one. -/
theorem unescape_textAll {ps : List Piece} (h : ∀ p ∈ ps, p.IsSound) :
    unescape (Piece.textAll ps) = ps.map Piece.read := by
  induction ps with
  | nil => rfl
  | cons p ps ih =>
    have hps := ih fun q hq => h q (List.mem_cons_of_mem p hq)
    have hp := h p List.mem_cons_self
    rw [Piece.textAll_cons, List.map_cons, ← hps]
    cases p with
    | plain c => exact unescape_cons hp.1 _
    | escaped c => rfl

theorem isWhite_of_mem_gap {g : Text} (hg : isGap g = true) {c : Char} (hc : c ∈ g) :
    Text.isWhite c = true ∧ Line.isBreak c = false := by
  have hgap := List.all_eq_true.mp hg c hc
  rwa [Bool.and_eq_true, Bool.not_eq_true'] at hgap

theorem trimStart_append_of_isGap {g : Text} (hg : isGap g = true) (t : Text) :
    Text.trimStart (g ++ t) = Text.trimStart t :=
  List.dropWhile_append_of_pos fun _ hc => (isWhite_of_mem_gap hg hc).1

theorem trimStart_of_head {t : Text} (h : ∀ c ∈ t.head?, Text.isWhite c = false) :
    Text.trimStart t = t := by
  cases t with
  | nil => rfl
  | cons c cs => exact List.dropWhile_cons_of_neg (Bool.eq_false_iff.mp (h c rfl))

theorem splitLine_escaped (c : Char) (cs : Text) :
    splitLine ('\\' :: c :: cs) = (unescapeChar c :: (splitLine cs).1, (splitLine cs).2) := rfl

theorem splitLine_cons {c : Char} (hc : c ≠ '\\') (cs : Text) :
    splitLine (c :: cs) =
      if isSign c then ([], valueOf cs)
      else if Text.isWhite c then
        match Text.trimStart cs with
        | [] => ([], [])
        | d :: ds => ([], valueOf (if isSign d then ds else d :: ds))
      else (c :: (splitLine cs).1, (splitLine cs).2) := by
  rw [splitLine]
  · rfl
  · exact fun h _ => hc h
  · exact fun _ _ h _ => hc h

/-- White space ends a key, and with it goes one sign that follows. -/
theorem splitLine_white {c : Char} (hc : Text.isWhite c = true) (cs : Text) :
    splitLine (c :: cs) =
      match Text.trimStart cs with
      | [] => ([], [])
      | d :: ds => ([], valueOf (if isSign d then ds else d :: ds)) := by
  have hne : c ≠ '\\' := by
    rintro rfl
    exact absurd hc (by decide)
  have hsign : isSign c = false := by
    rw [isSign, Bool.or_eq_false_iff, beq_eq_false_iff_ne, beq_eq_false_iff_ne]
    constructor <;>
    · rintro rfl
      exact absurd hc (by decide)
  rw [splitLine_cons hne, hsign, hc]
  rfl

theorem splitLine_ofKey (c : Char) (t : Text) :
    splitLine ((Piece.ofKey c).text ++ t) = (c :: (splitLine t).1, (splitLine t).2) := by
  unfold Piece.ofKey
  split
  · next hc =>
    show splitLine ('\\' :: escapeChar c :: t) = _
    rw [splitLine_escaped, unescapeChar_escapeChar (unescapeChar_of_special hc)]
  · next hc =>
    simp only [Bool.or_eq_true, not_or, beq_iff_eq, Bool.not_eq_true] at hc
    show splitLine (c :: t) = _
    rw [splitLine_cons hc.1.1.1, hc.1.1.2, hc.2]
    rfl

/-- A key ends at nothing that it holds itself. -/
theorem splitLine_key (key t : Text) :
    splitLine (Piece.textAll (key.map .ofKey) ++ t) =
      (key ++ (splitLine t).1, (splitLine t).2) := by
  induction key with
  | nil => rfl
  | cons c cs ih =>
    rw [List.map_cons, Piece.textAll_cons, List.append_assoc, splitLine_ofKey, ih]
    rfl

/-- A separator takes all white space around it. What follows must not look like a part of it. -/
theorem splitLine_separator (s : Separator) {t : Text}
    (ht : ∀ c ∈ t.head?, Text.isWhite c = false ∧ isSign c = false) :
    splitLine (s.text ++ t) = ([], unescape t) := by
  have htrim : Text.trimStart t = t := trimStart_of_head fun c hc => (ht c hc).1
  match s with
  | .sign ⟨before, hbefore⟩ colon ⟨after, hafter⟩ =>
    have hvalue : valueOf (after ++ t) = unescape t := by
      rw [valueOf, trimStart_append_of_isGap hafter, htrim]
    rw [Separator.text]
    generalize hsign : (if colon then ':' else '=') = sign
    have hprops : sign ≠ '\\' ∧ isSign sign = true ∧ Text.isWhite sign = false := by
      rw [← hsign]
      cases colon <;> decide
    rw [List.append_assoc, List.cons_append]
    cases before with
    | nil => rw [List.nil_append, splitLine_cons hprops.1, if_pos hprops.2.1, hvalue]
    | cons w ws =>
      -- The sign is what is left of the white space and itself.
      rw [isGap, List.all_cons, ← isGap, Bool.and_eq_true, Bool.and_eq_true] at hbefore
      have hsigned : Text.trimStart (sign :: (after ++ t)) = sign :: (after ++ t) :=
        List.dropWhile_cons_of_neg (Bool.eq_false_iff.mp hprops.2.2)
      rw [List.cons_append, splitLine_white hbefore.1.1, trimStart_append_of_isGap hbefore.2,
        hsigned]
      simp only [hprops.2.1, if_true, hvalue]
  | .space ⟨[], _⟩ hne => exact absurd rfl hne
  | .space ⟨w :: ws, hg⟩ _ =>
    rw [isGap, List.all_cons, ← isGap, Bool.and_eq_true, Bool.and_eq_true] at hg
    show splitLine (w :: (ws ++ t)) = _
    rw [splitLine_white hg.1.1, trimStart_append_of_isGap hg.2, htrim]
    cases t with
    | nil => rfl
    | cons d ds =>
      simp only [(ht d rfl).2, Bool.false_eq_true, if_false, valueOf, htrim]

/-- The first piece of a value is neither white space nor a sign. -/
theorem head?_ofValueText (letter : Bool) (t : Text) :
    ∀ c ∈ (Piece.textAll (Piece.ofValueText letter t)).head?,
      Text.isWhite c = false ∧ isSign c = false := by
  intro c hc
  cases t with
  | nil => cases hc
  | cons d ds =>
    rw [Piece.ofValueText, Piece.textAll_cons] at hc
    unfold Piece.ofFirst Piece.ofValue at hc
    split at hc
    · cases hc
      decide
    · next hd =>
      split at hc
      · cases hc
        decide
      · cases hc
        rw [Bool.or_eq_true, not_or, Bool.not_eq_true, Bool.not_eq_true] at hd
        exact hd

theorem splitLine_pieces (e : Entry) : splitLine (Piece.textAll e.pieces) = (e.key, e.value) := by
  rw [Entry.pieces, Piece.textAll_append, Piece.textAll_append, Piece.textAll_plain, splitLine_key,
    splitLine_separator _ (head?_ofValueText e.letter e.value),
    unescape_textAll (Piece.isSound_ofValueText e.letter e.value), Piece.read_ofValueText,
    List.append_nil]

end DocLint.Properties
