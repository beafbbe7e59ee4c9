import DocLint.Markdown.Reference

/-!
# What a definition leaves

Every reader of glyphs answers a rest of what it was given, so a definition takes glyphs from the
front of prose and stops at the end of a line. It follows that it takes at least one line.
-/

namespace DocLint.Markdown

theorem labelLoop_isSuffix {read gs label rest : List Glyph} {size : Nat} {seen escaped : Bool}
    (h : labelLoop read size seen escaped gs = some (label, rest)) : rest <:+ gs := by
  induction gs generalizing read size seen escaped with
  | nil => cases h
  | cons g gs ih =>
    have hrec : ∀ {read size seen escaped}, labelLoop read size seen escaped gs =
        some (label, rest) → rest <:+ g :: gs := fun h => (ih h).trans (List.suffix_cons g gs)
    unfold labelLoop at h
    split at h
    · cases h
    · split at h
      · exact hrec h
      · exact hrec h
      · split at h
        · exact hrec h
        · split at h
          · cases h
          · split at h
            · split at h
              · cases h
                exact List.suffix_cons _ _
              · cases h
            · exact hrec h

theorem label?_isSuffix {gs label rest : List Glyph} (h : label? gs = some (label, rest)) :
    rest <:+ gs := by
  rw [label?.eq_def] at h
  split at h
  · exact (labelLoop_isSuffix h).trans (List.suffix_cons _ _)
  · cases h

theorem skipSpace_isSuffix (gs : List Glyph) : skipSpace gs <:+ gs :=
  List.dropWhile_suffix _

theorem skipBreak?_isSuffix {gs rest : List Glyph} (h : skipBreak? gs = some rest) :
    rest <:+ gs := by
  rw [skipBreak?] at h
  split at h
  · next t after hskip =>
    cases h
    have hafter : .newline t :: after <:+ gs := hskip ▸ skipSpace_isSuffix gs
    exact ((skipSpace_isSuffix after).trans (List.suffix_cons _ _)).trans hafter
  · split at h
    · cases h
      exact skipSpace_isSuffix gs
    · cases h

theorem enclosedLoop_isSuffix {gs rest : List Glyph} (h : enclosedLoop gs = some rest) :
    rest <:+ gs := by
  fun_induction enclosedLoop gs with
  | case1 | case3 | case4 => cases h
  | case2 =>
    cases h
    exact List.suffix_cons _ _
  | case5 c gs _ ih =>
    exact (ih h).trans ((List.suffix_cons _ gs).trans (List.suffix_cons _ _))
  | case6 c gs _ ih => exact (ih h).trans (List.suffix_cons _ _)
  | case7 g gs _ _ _ _ ih => exact (ih h).trans (List.suffix_cons g gs)

theorem rawLoop_isSuffix {limit : Option Nat} {depth : Nat} {gs rest : List Glyph}
    (h : rawLoop limit depth gs = some rest) : rest <:+ gs := by
  fun_induction rawLoop limit depth gs with
  | case2 | case4 | case6 | case11 | case13 => cases h
  | case1 | case3 | case5 | case9 =>
    cases h
    exact List.suffix_rfl
  | case7 depth c gs _ ih =>
    exact (ih h).trans ((List.suffix_cons _ gs).trans (List.suffix_cons _ _))
  | case8 depth c gs _ ih => exact (ih h).trans (List.suffix_cons _ _)
  | case10 depth c gs _ _ _ _ ih => exact (ih h).trans (List.suffix_cons _ gs)
  | case12 depth c gs _ _ _ _ ih => exact (ih h).trans (List.suffix_cons _ gs)
  | case14 depth c gs _ _ _ _ _ ih => exact (ih h).trans (List.suffix_cons _ gs)

theorem destination?_isSuffix {limit : Option Nat} {gs rest : List Glyph}
    (h : destination? limit gs = some rest) : rest <:+ gs := by
  rw [destination?.eq_def] at h
  split at h
  · exact (enclosedLoop_isSuffix h).trans (List.suffix_cons _ _)
  · split at h
    · cases h
    · exact rawLoop_isSuffix h
  · cases h

theorem titleLoop_isSuffix {marker : Char} {gs rest : List Glyph}
    (h : titleLoop marker gs = some rest) : rest <:+ gs := by
  fun_induction titleLoop marker gs with
  | case1 => cases h
  | case2 c gs _ ih =>
    exact (ih h).trans ((List.suffix_cons _ gs).trans (List.suffix_cons _ _))
  | case3 c gs _ ih => exact (ih h).trans (List.suffix_cons _ _)
  | case4 =>
    cases h
    exact List.suffix_cons _ _
  | case5 g gs _ _ ih => exact (ih h).trans (List.suffix_cons g gs)

theorem title?_isSuffix {gs rest : List Glyph} (h : title? gs = some rest) : rest <:+ gs := by
  rw [title?.eq_def] at h
  split at h
  · split at h
    · exact (titleLoop_isSuffix h).trans (List.suffix_cons _ _)
    · split at h
      · exact (titleLoop_isSuffix h).trans (List.suffix_cons _ _)
      · cases h
  · cases h

theorem definitionTitle?_spec {gs rest : List Glyph} (h : definitionTitle? gs = some rest) :
    rest <:+ gs ∧ atLineEnd rest = true := by
  simp only [definitionTitle?, bind, Option.bind_eq_some_iff] at h
  obtain ⟨start, hstart, after, hafter, h⟩ := h
  split at h
  · next hend =>
    cases h
    have htitle := (title?_isSuffix hafter).trans (skipBreak?_isSuffix hstart)
    exact ⟨(skipSpace_isSuffix after).trans htitle, hend⟩
  · cases h

/-- A definition stops at the end of a line. -/
theorem definition?_spec {gs rest : List Glyph} {label : Text}
    (h : definition? gs = some (label, rest)) : rest <:+ gs ∧ atLineEnd rest = true := by
  rw [definition?] at h
  split at h
  · next name after hlabel =>
    have hafter : after <:+ gs :=
      ((List.suffix_cons _ after).trans (label?_isSuffix hlabel)).trans (skipSpace_isSuffix gs)
    split at h
    · cases h
    · next dest hdest =>
      have hbreak : (skipBreak? after).getD after <:+ after := by
        cases hskip : skipBreak? after with
        | none => exact List.suffix_rfl
        | some start => exact skipBreak?_isSuffix hskip
      have hdest' : dest <:+ gs := ((destination?_isSuffix hdest).trans hbreak).trans hafter
      split at h
      · next title htitle =>
        cases h
        obtain ⟨hsuffix, hend⟩ := definitionTitle?_spec htitle
        exact ⟨hsuffix.trans hdest', hend⟩
      · simp only at h
        split at h
        · next hend =>
          cases h
          exact ⟨(skipSpace_isSuffix dest).trans hdest', hend⟩
        · cases h
  · cases h

end DocLint.Markdown
