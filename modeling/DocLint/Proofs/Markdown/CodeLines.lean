import DocLint.Proofs.Markdown.Fence

/-!
# The lines of code

A block of code accounts for all of its lines: each is the opening line, a line of code or the closing
line, in this order, and nothing is lost or counted twice. `Divides` says which line is what, and a
block is read in just this way.
-/

namespace DocLint

theorem Fence.marker_injective {f g : Fence} {c : Char} (hf : f.marker = some c)
    (hg : g.marker = some c) : f = g := by
  cases f with
  | indented => cases hf
  | backtick | tilde =>
    cases hf
    cases g <;> cases hg
    rfl

namespace Markdown

/-- `Divides ls fence body closed`: the lines `ls` are code that is set off by `fence`, with the lines
of code `body`, and `closed` tells whether a line closes it. -/
inductive Divides : List Text → Fence → List Text → Bool → Prop where
  /-- Without a fence, every line is a line of code. -/
  | indented {ls : List Text} (hnone : ∀ l ∈ ls.head?, ¬LooksOpening l) :
      Divides ls .indented ls true
  | closed {fence : Fence} {marker : Char} {size : Nat} {opening last : Text} {body : List Text}
      (hmarker : fence.marker = some marker) (hopening : ShowsFence marker size opening)
      (hlast : LooksClosing marker size last) :
      Divides (opening :: (body ++ [last])) fence body true
  /-- Nothing is left out at the end if the last line, where there is one, closes nothing. -/
  | unclosed {fence : Fence} {marker : Char} {size : Nat} {opening : Text} {body : List Text}
      (hmarker : fence.marker = some marker) (hopening : ShowsFence marker size opening)
      (hlast : ∀ l ∈ body.getLast?, ¬LooksClosing marker size l) :
      Divides (opening :: body) fence body false

theorem ShowsFence.closesFence_iff {marker : Char} {size : Nat} {opening : Text}
    (h : ShowsFence marker size opening) (l : Text) :
    closesFence marker size l = true ↔ LooksClosing marker size l := by
  obtain ⟨-, hmarker, -⟩ := h
  exact Markdown.closesFence_iff hmarker size l

namespace Divides

variable {ls body : List Text} {fence : Fence} {closed : Bool}

theorem codeOf_eq (h : Divides ls fence body closed) : codeOf ls = .code fence body closed := by
  cases h with
  | indented hnone =>
    cases ls with
    | nil => rfl
    | cons l ls =>
      have hfence : fenceOf l = .indented := (fenceOf_eq_indented_iff l).mpr (hnone l rfl)
      simp only [codeOf, List.head?_cons, Option.getD_some, hfence, Fence.marker]
  | @closed fence marker size opening last body hmarker hopening hlast =>
    obtain ⟨fence', hmarker', hcode⟩ := codeOf_of_fence hopening (body ++ [last])
    have hcloses : (body ++ [last]).getLast?.any (closesFence marker size) = true := by
      rw [List.getLast?_concat, Option.any_some]
      exact (hopening.closesFence_iff last).mpr hlast
    rw [hcode, hcloses, if_pos rfl, List.dropLast_concat, Fence.marker_injective hmarker' hmarker]
  | @unclosed fence marker size opening body hmarker hopening hlast =>
    obtain ⟨fence', hmarker', hcode⟩ := codeOf_of_fence hopening body
    have hcloses : body.getLast?.any (closesFence marker size) = false := by
      cases hl : body.getLast? with
      | none => rfl
      | some l =>
        rw [Option.any_some, Bool.eq_false_iff, ne_eq, hopening.closesFence_iff]
        exact hlast l hl
    rw [hcode, hcloses, if_neg Bool.false_ne_true, Fence.marker_injective hmarker' hmarker]

/-- A line of code is one that is neither the opening nor the closing line. -/
theorem body_eq_nil_iff (h : Divides ls fence body closed) (hfenced : fence.isFenced = true) :
    body = [] ↔ ∀ i < ls.length, i = 0 ∨ closed = true ∧ i + 1 = ls.length := by
  rw [← List.length_eq_zero_iff]
  cases h with
  | indented hnone => cases hfenced
  | closed hmarker hopening hlast =>
    simp only [List.length_cons, List.length_append, List.length_nil, true_and]
    constructor
    · intro hnone i hi
      omega
    · intro hall
      have hfirst := hall 1 (by omega)
      omega
  | unclosed hmarker hopening hlast =>
    simp only [List.length_cons, Bool.false_eq_true, false_and, or_false]
    constructor
    · intro hnone i hi
      omega
    · intro hall
      by_contra hne
      have hfirst := hall 1 (by omega)
      omega

theorem closed_eq_false_of_length (h : Divides ls fence body closed)
    (hfenced : fence.isFenced = true) (hlength : ls.length = 1) : closed = false := by
  cases h with
  | indented hnone => cases hfenced
  | closed hmarker hopening hlast =>
    rw [List.length_cons, List.length_append, List.length_singleton] at hlength
    omega
  | unclosed hmarker hopening hlast => rfl

end Divides

theorem exists_divides (ls : List Text) : ∃ fence body closed, Divides ls fence body closed := by
  by_cases hlooks : ∃ l ∈ ls.head?, LooksOpening l
  · obtain ⟨opening, hhead, hopens⟩ := hlooks
    obtain ⟨rest, rfl⟩ := List.head?_eq_some_iff.mp hhead
    obtain ⟨marker, size, hopening⟩ := hopens.exists_showsFence
    obtain ⟨fence, hmarker, -⟩ := codeOf_of_fence hopening rest
    by_cases hcloses : ∃ l ∈ rest.getLast?, LooksClosing marker size l
    · obtain ⟨last, hlast, hcloses⟩ := hcloses
      obtain ⟨body, rfl⟩ := List.getLast?_eq_some_iff.mp hlast
      exact ⟨fence, body, true, .closed hmarker hopening hcloses⟩
    · exact ⟨fence, rest, false, .unclosed hmarker hopening fun l hl h => hcloses ⟨l, hl, h⟩⟩
  · exact ⟨.indented, ls, true, .indented fun l hl h => hlooks ⟨l, hl, h⟩⟩

theorem codeOf_eq_iff {ls body : List Text} {fence : Fence} {closed : Bool} :
    codeOf ls = .code fence body closed ↔ Divides ls fence body closed := by
  constructor
  · intro h
    obtain ⟨fence', body', closed', hdivides⟩ := exists_divides ls
    rw [hdivides.codeOf_eq] at h
    cases h
    exact hdivides
  · exact Divides.codeOf_eq

/-- Code is read as its lines divide, and every text is read as some code. If that has fences, its
lines of code are all lines but the opening and the closing one, and the opening line is not the
closing one. -/
theorem codeOf_lines_eq_iff_divides (raw : Text) :
    (∀ fence body closed, codeOf raw.lines = .code fence body closed ↔
      Divides raw.lines fence body closed) ∧
      ∃ fence body closed, codeOf raw.lines = .code fence body closed ∧
        (fence.isFenced = true →
          (raw.lines.length = 1 → closed = false) ∧
            (body = [] ↔
              ∀ i < raw.lines.length, i = 0 ∨ closed = true ∧ i + 1 = raw.lines.length)) := by
  refine ⟨fun fence body closed => codeOf_eq_iff, ?_⟩
  obtain ⟨fence, body, closed, hdivides⟩ := exists_divides raw.lines
  refine ⟨fence, body, closed, hdivides.codeOf_eq, fun hfenced => ?_⟩
  exact ⟨hdivides.closed_eq_false_of_length hfenced, hdivides.body_eq_nil_iff hfenced⟩

/-- Code with a line that has too few markers to close it, and an indented one that closes it. -/
def wideFenceText : Text :=
  " ~~~~ a\r~~~\r\n\t~~~~~ \n".toList

theorem codeOf_lines_eq_iff_divides_wideFenceText :
    Divides [" ~~~~ a".toList, "~~~".toList, "\t~~~~~ ".toList] .tilde ["~~~".toList] true ∧
      (["~~~".toList] = ([] : List Text) ↔
        ∀ i < wideFenceText.lines.length, i = 0 ∨ i + 1 = wideFenceText.lines.length) := by
  have hcode : codeOf wideFenceText.lines = .code .tilde ["~~~".toList] true := by decide
  obtain ⟨hiff, fence, body, closed, heq, hfenced⟩ := codeOf_lines_eq_iff_divides wideFenceText
  rw [hcode] at heq
  cases heq
  obtain ⟨-, hbody⟩ := hfenced rfl
  simp only [true_and] at hbody
  exact ⟨(hiff _ _ _).mp hcode, hbody⟩

end Markdown

end DocLint
