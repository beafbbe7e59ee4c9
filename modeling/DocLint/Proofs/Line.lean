import DocLint.Line

/-!
# Lines and terminators

A text without terminators in it stays in one piece: it is a line if a terminator follows, and the
last line if nothing does. Lines that are joined with a terminator between them are therefore found
again, except that an empty line at the very end leaves no trace. Two texts with a line feed between
them have the lines of the one and those of the other, with at most an empty line in the middle.
-/

namespace DocLint

namespace Line

def isBreak (c : Char) : Bool :=
  c == '\n' || c == '\r'

theorem isBreak_eq_false_iff (c : Char) : isBreak c = false ↔ c ≠ '\n' ∧ c ≠ '\r' := by
  rw [isBreak, Bool.or_eq_false_iff, beq_eq_false_iff_ne, beq_eq_false_iff_ne]

theorem split_cons_of_isBreak {c : Char} (hc : isBreak c = false) (cs : Text) :
    split (c :: cs) = push c (split cs) := by
  rw [isBreak_eq_false_iff] at hc
  rw [split]
  · exact fun _ h => absurd h hc.2
  · exact fun h => absurd h hc.2
  · exact fun h => absurd h hc.1

theorem split_of_no_break {t : Text} (ht : ∀ c ∈ t, isBreak c = false) (hne : t ≠ []) :
    split t = [⟨t, none⟩] := by
  induction t with
  | nil => exact absurd rfl hne
  | cons c cs ih =>
    have hcs : ∀ d ∈ cs, isBreak d = false := fun d hd => ht d (List.mem_cons_of_mem c hd)
    rw [split_cons_of_isBreak (ht c List.mem_cons_self)]
    cases cs with
    | nil => rfl
    | cons d ds =>
      rw [ih hcs (List.cons_ne_nil d ds)]
      rfl

/-- A line up to its terminator. A line feed behind a carriage return would belong to it. -/
theorem split_append_terminator {t : Text} (ht : ∀ c ∈ t, isBreak c = false) (nl : Terminator)
    {rest : Text} (hcr : nl = .cr → rest.head? ≠ some '\n') :
    split (t ++ (nl.text ++ rest)) = ⟨t, some nl⟩ :: split rest := by
  induction t with
  | nil =>
    cases nl with
    | lf => rfl
    | crlf => rfl
    | cr =>
      have hhead := hcr rfl
      cases rest with
      | nil => rfl
      | cons c cs =>
        have hc : c ≠ '\n' := fun h => hhead (congrArg some h)
        show split ('\r' :: c :: cs) = _
        rw [split]
        exact fun cs' h => hc (List.cons.inj h).1
  | cons c cs ih =>
    rw [List.cons_append, split_cons_of_isBreak (ht c List.mem_cons_self),
      ih fun d hd => ht d (List.mem_cons_of_mem c hd)]
    rfl

theorem split_ne_nil {t : Text} (h : t ≠ []) : split t ≠ [] := by
  fun_cases split t with
  | case1 => exact absurd rfl h
  | case5 c cs => cases split cs <;> simp [push]
  | _ => exact List.cons_ne_nil _ _

end Line

namespace Text

theorem withoutMark_of_hasMark {t : Text} (h : t.hasMark = false) : t.withoutMark = t := by
  cases t with
  | nil => rfl
  | cons c cs =>
    rw [hasMark, beq_eq_false_iff_ne] at h
    rw [withoutMark, if_neg h]

theorem lines_append_terminator {t : Text} (ht : ∀ c ∈ t, Line.isBreak c = false)
    (nl : Terminator) {rest : Text} (hcr : nl = .cr → rest.head? ≠ some '\n') :
    lines (t ++ (nl.text ++ rest)) = t :: lines rest := by
  rw [lines, Line.split_append_terminator ht nl hcr]
  rfl

/-- Lines with one carriage return between them do not bring a line feed behind it. -/
theorem head?_joinWith_cr {ls : List Text} (h : ∀ l ∈ ls, ∀ c ∈ l, Line.isBreak c = false) :
    (joinWith Terminator.cr.text ls).head? ≠ some '\n' := by
  match ls with
  | [] => simp [joinWith]
  | [] :: [] => simp [joinWith]
  | [] :: l :: ls => simp [joinWith, Terminator.text]
  | (c :: cs) :: ls =>
    have hc := h (c :: cs) List.mem_cons_self c List.mem_cons_self
    have hhead : (joinWith Terminator.cr.text ((c :: cs) :: ls)).head? = some c := by
      cases ls <;> rfl
    rw [hhead]
    rintro ⟨rfl⟩
    cases hc

/-- Joined lines are found again, except for an empty line at the end. -/
theorem lines_joinWith (nl : Terminator) {ls : List Text}
    (h : ∀ l ∈ ls, ∀ c ∈ l, Line.isBreak c = false) :
    lines (joinWith nl.text ls) = if ls.getLast? = some [] then ls.dropLast else ls := by
  induction ls with
  | nil => rfl
  | cons l ls ih =>
    have hl := h l List.mem_cons_self
    have hls : ∀ m ∈ ls, ∀ c ∈ m, Line.isBreak c = false :=
      fun m hm => h m (List.mem_cons_of_mem l hm)
    cases ls with
    | nil =>
      cases l with
      | nil => rfl
      | cons c cs =>
        show lines (c :: cs) = _
        rw [lines, Line.split_of_no_break hl (List.cons_ne_nil c cs)]
        rfl
    | cons m ms =>
      have hcr : nl = .cr → (joinWith nl.text (m :: ms)).head? ≠ some '\n' := by
        rintro rfl
        exact head?_joinWith_cr hls
      have hjoin : joinWith nl.text (l :: m :: ms) =
          l ++ (nl.text ++ joinWith nl.text (m :: ms)) := by
        rw [joinWith, List.append_assoc]
        exact List.cons_ne_nil m ms
      rw [hjoin, lines_append_terminator hl nl hcr, ih hls, List.getLast?_cons_cons,
        List.dropLast_cons_of_ne_nil (List.cons_ne_nil m ms)]
      split <;> rfl

theorem lines_ne_nil {t : Text} (h : t ≠ []) : lines t ≠ [] := by
  rw [lines, ne_eq, List.map_eq_nil_iff]
  exact Line.split_ne_nil h

theorem lines_cons {c : Char} (hc : Line.isBreak c = false) {cs l : Text} {ls : List Text}
    (hcs : lines cs = l :: ls) : lines (c :: cs) = (c :: l) :: ls := by
  rw [lines, Line.split_cons_of_isBreak hc]
  unfold lines at hcs
  cases h : Line.split cs with
  | nil =>
    rw [h] at hcs
    cases hcs
  | cons m ms =>
    rw [h] at hcs
    cases hcs
    rfl

/-- A text below another one. The line feed between them ends the last line of the first text; if
that line is already ended by a line feed, or there is none, it makes an empty line, and behind a
carriage return it makes nothing. -/
theorem lines_append_lf (a b : Text) :
    lines (a ++ '\n' :: b) =
      lines a ++ ((if a.getLast?.all (· == '\n') then [[]] else []) ++ lines b) := by
  induction a using Line.split.induct with
  | case1 => rfl
  | case2 cs ih =>
    show [] :: lines (cs ++ '\n' :: b) = [] :: (lines cs ++ _)
    rw [ih]
    cases cs <;> rfl
  | case3 cs hcs ih =>
    -- A carriage return at the end takes the line feed for its own.
    cases cs with
    | nil => rfl
    | cons d ds =>
      have hd : d ≠ '\n' := fun h => hcs ds (congrArg (· :: ds) h)
      have hreturn : ∀ t, lines ('\r' :: d :: t) = [] :: lines (d :: t) := fun t =>
        lines_append_terminator (List.forall_mem_nil _) .cr fun _ h => hd (Option.some.inj h)
      show lines ('\r' :: d :: (ds ++ '\n' :: b)) = _
      rw [hreturn, hreturn]
      exact congrArg _ ih
  | case4 cs ih =>
    show [] :: lines (cs ++ '\n' :: b) = [] :: (lines cs ++ _)
    rw [ih]
    cases cs <;> rfl
  | case5 c cs _ hcr hlf ih =>
    have hc : Line.isBreak c = false := by
      rw [Line.isBreak_eq_false_iff]
      exact ⟨fun h => hlf h, fun h => hcr h⟩
    cases cs with
    | nil =>
      have hb : ∀ d ∈ [c], Line.isBreak d = false := List.forall_mem_singleton.mpr hc
      have hone : lines [c] = [[c]] := by
        rw [lines, Line.split_of_no_break hb (List.cons_ne_nil c [])]
        rfl
      have hends : ¬[c].getLast?.all (· == '\n') = true := by
        show ¬(c == '\n') = true
        rw [beq_iff_eq]
        exact hlf
      show lines ([c] ++ (Terminator.lf.text ++ b)) = _
      rw [lines_append_terminator hb .lf nofun, hone, if_neg hends]
      rfl
    | cons d ds =>
      -- The first line of the rest begins with `c` on both sides.
      obtain ⟨l, ls, hl⟩ := List.exists_cons_of_ne_nil (lines_ne_nil (List.cons_ne_nil d ds))
      rw [hl] at ih
      rw [List.getLast?_cons_cons, lines_cons hc hl]
      exact lines_cons hc ih

end Text

end DocLint
