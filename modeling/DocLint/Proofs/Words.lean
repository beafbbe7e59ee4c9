import DocLint.Proofs.Decoration

/-!
# The words of a line

What `strip` answers, said of the line as a whole: `HasWords s r` takes the line `s` apart into white
space, block quote markers, at most one further marker, the words `r`, the hashes that close a
heading, and white space. A line has the words that stripping leaves of it, and no others. So what is
removed is decoration, and all of it is.
-/

namespace DocLint.Decoration

/-! ## Markup -/

/-- Block quote markers, each with white space behind it. -/
inductive IsQuoting : Text → Prop where
  | nil : IsQuoting []
  | cons {w q : Text} (hw : Text.isBlank w = true) (hq : IsQuoting q) :
      IsQuoting ('>' :: (w ++ q))

def hashes (n : Nat) : Text :=
  List.replicate n '#'

/-- One bullet, or one to nine digits with a delimiter. -/
inductive IsListMarker : Text → Prop where
  | bullet {c : Char} (hc : c = '-' ∨ c = '*' ∨ c = '+') : IsListMarker [c]
  | number {digits : Text} {c : Char} (hlen : 1 ≤ digits.length ∧ digits.length ≤ 9)
      (hdigits : ∀ d ∈ digits, Text.isDigit d = true) (hc : c = '.' ∨ c = ')') :
      IsListMarker (digits ++ [c])

/-- What marks a heading or an item of a list. -/
inductive IsMarker : Text → Prop where
  | heading (n : Nat) : IsMarker (hashes (n + 1))
  | item {m : Text} (hm : IsListMarker m) : IsMarker m

/-- A text that may stand behind a marker: it is empty or begins with white space. -/
def IsApart (t : Text) : Prop :=
  ∀ c ∈ t.head?, Text.isWhite c = true

/-- A text behind which a run of hashes closes a heading: it is empty or ends with white space. -/
def IsClosable (t : Text) : Prop :=
  ∀ c ∈ t.getLast?, Text.isWhite c = true

/-- A text that ends with hashes which close a heading. -/
def IsClosed (t : Text) : Prop :=
  ∃ y k, t = y ++ hashes (k + 1) ∧ IsClosable y

/-- `Encloses t r`: in `t`, which begins behind the block quote markers of a line, the words `r` have
at most one marker in front, and hashes behind them only if that is a run of hashes, too. -/
inductive Encloses : Text → Text → Prop where
  /-- Nothing in front is a marker that stands apart, so all is kept but white space at the end. -/
  | plain {r b : Text} (hb : Text.isBlank b = true)
      (hnone : ∀ m rest, IsMarker m → r ++ b = m ++ rest → ¬IsApart rest) :
      Encloses (r ++ b) r
  | item {m w r b : Text} (hm : IsListMarker m) (hapart : IsApart (w ++ (r ++ b)))
      (hw : Text.isBlank w = true) (hb : Text.isBlank b = true) :
      Encloses (m ++ (w ++ (r ++ b))) r
  /-- The hashes at the end of the words, if there are any, do not close the heading. -/
  | heading (n : Nat) {w r b : Text} (hapart : IsApart (w ++ (r ++ b)))
      (hw : Text.isBlank w = true) (hb : Text.isBlank b = true) (hopen : ¬IsClosed r) :
      Encloses (hashes (n + 1) ++ (w ++ (r ++ b))) r
  | closedHeading (n k : Nat) {w r gap b : Text}
      (hapart : IsApart (w ++ (r ++ (gap ++ (hashes (k + 1) ++ b)))))
      (hw : Text.isBlank w = true) (hgap : Text.isBlank gap = true) (hb : Text.isBlank b = true)
      (hclosable : IsClosable (r ++ gap)) :
      Encloses (hashes (n + 1) ++ (w ++ (r ++ (gap ++ (hashes (k + 1) ++ b))))) r

/-- `HasWords s r`: the words of the line `s` are `r`. Neither end of the words is white space, and
no block quote marker is left in front of what encloses them. -/
structure HasWords (s r : Text) : Prop where
  first_not_white : ∀ c ∈ r.head?, Text.isWhite c = false
  last_not_white : ∀ c ∈ r.getLast?, Text.isWhite c = false
  parts : ∃ w q t, s = w ++ (q ++ t) ∧ Text.isBlank w = true ∧ IsQuoting q ∧
    (∀ c ∈ t.head?, c ≠ '>' ∧ Text.isWhite c = false) ∧ Encloses t r

theorem endsMarker_iff {t : Text} : endsMarker t = true ↔ IsApart t := by
  cases t with
  | nil => simp [endsMarker, IsApart]
  | cons c cs => simp [endsMarker, IsApart]

theorem IsApart.of_isPrefix {s t : Text} (h : IsApart t) (hs : s <+: t) : IsApart s :=
  Text.forall_head?_of_isPrefix hs h

theorem IsApart.append {t b : Text} (h : IsApart t) (hb : Text.isBlank b = true) :
    IsApart (t ++ b) := by
  rw [Text.isBlank_iff] at hb
  exact Text.forall_head?_append h fun c hc => hb c (List.mem_of_head? hc)

theorem IsApart.head?_ne {t : Text} (h : IsApart t) {c : Char} (hc : Text.isWhite c = false) :
    t.head? ≠ some c := by
  intro hhead
  have hwhite := h c hhead
  rw [hc] at hwhite
  cases hwhite

/-! ## Block quote markers -/

theorem dropQuotes_skip_eq (t : Text) :
    dropQuotes.skip t = t.dropWhile fun c => c == '>' || Text.isWhite c := by
  induction t with
  | nil => rfl
  | cons c cs ih =>
    rw [dropQuotes.skip, List.dropWhile_cons, ih]
    by_cases hwhite : Text.isWhite c = true
    · simp [hwhite]
    · by_cases hquote : c = '>'
      · simp [hquote]
      · simp [hwhite, hquote]

/-- White space and markers in any order are white space and then quoting. -/
theorem exists_isQuoting {t : Text} (h : ∀ c ∈ t, c = '>' ∨ Text.isWhite c = true) :
    ∃ w q, t = w ++ q ∧ Text.isBlank w = true ∧ IsQuoting q := by
  induction t with
  | nil => exact ⟨[], [], rfl, rfl, .nil⟩
  | cons c cs ih =>
    obtain ⟨hc, hcs⟩ := List.forall_mem_cons.mp h
    obtain ⟨w, q, rfl, hw, hq⟩ := ih hcs
    rcases hc with rfl | hc
    · exact ⟨[], '>' :: (w ++ q), rfl, rfl, .cons hw hq⟩
    · refine ⟨c :: w, q, rfl, ?_, hq⟩
      rw [Text.isBlank, List.all_cons, hc, Bool.true_and]
      exact hw

theorem isQuoting_iff {q : Text} :
    IsQuoting q ↔ (∀ c ∈ q.head?, c = '>') ∧ ∀ c ∈ q, c = '>' ∨ Text.isWhite c = true := by
  constructor
  · intro h
    induction h with
    | nil => simp
    | @cons w q hw hq ih =>
      rw [Text.isBlank_iff] at hw
      refine ⟨by simp, fun c hc => ?_⟩
      rcases List.mem_cons.mp hc with rfl | hc
      · exact .inl rfl
      · rcases List.mem_append.mp hc with hc | hc
        · exact .inr (hw c hc)
        · exact ih.2 c hc
  · rintro ⟨hhead, hall⟩
    cases q with
    | nil => exact .nil
    | cons c cs =>
      obtain rfl : c = '>' := hhead c rfl
      obtain ⟨w, q, rfl, hw, hq⟩ := exists_isQuoting (List.forall_mem_cons.mp hall).2
      exact .cons hw hq

theorem IsQuoting.of_isPrefix {p q : Text} (h : IsQuoting q) (hp : p <+: q) : IsQuoting p := by
  rw [isQuoting_iff] at h ⊢
  exact ⟨Text.forall_head?_of_isPrefix hp h.1, fun c hc => h.2 c (hp.subset hc)⟩

theorem dropQuotes_append {q t : Text} (hq : IsQuoting q)
    (ht : ∀ c ∈ t.head?, c ≠ '>' ∧ Text.isWhite c = false) : dropQuotes (q ++ t) = t := by
  have hstop : (t.dropWhile fun c => c == '>' || Text.isWhite c) = t := by
    cases t with
    | nil => rfl
    | cons c cs =>
      obtain ⟨hquote, hwhite⟩ := ht c rfl
      apply List.dropWhile_cons_of_neg
      simp [hquote, hwhite]
  cases hq with
  | nil =>
    cases t with
    | nil => rfl
    | cons c cs => exact if_neg (ht c rfl).1
  | @cons w q hw hq =>
    rw [List.cons_append, dropQuotes, if_pos rfl, dropQuotes_skip_eq,
      List.dropWhile_append_of_pos, hstop]
    intro c hc
    rw [Bool.or_eq_true, beq_iff_eq]
    rcases List.mem_append.mp hc with hc | hc
    · exact .inr ((Text.isBlank_iff w).mp hw c hc)
    · exact (isQuoting_iff.mp hq).2 c hc

/-- Every line has white space and quoting in front of the rest. -/
theorem exists_dropQuotes (s : Text) :
    ∃ w q t, s = w ++ (q ++ t) ∧ Text.isBlank w = true ∧ IsQuoting q ∧
      ∀ c ∈ t.head?, c ≠ '>' ∧ Text.isWhite c = false := by
  have hsplit := List.takeWhile_append_dropWhile (p := fun c => c == '>' || Text.isWhite c) (l := s)
  have hfront : ∀ c ∈ s.takeWhile fun c => c == '>' || Text.isWhite c,
      c = '>' ∨ Text.isWhite c = true := by
    intro c hc
    have hc' := List.mem_takeWhile_imp hc
    rwa [Bool.or_eq_true, beq_iff_eq] at hc'
  obtain ⟨w, q, hwq, hw, hq⟩ := exists_isQuoting hfront
  refine ⟨w, q, s.dropWhile fun c => c == '>' || Text.isWhite c, ?_, hw, hq, ?_⟩
  · rw [← List.append_assoc, ← hwq, hsplit]
  · intro c hc
    have hkept := List.head?_dropWhile_not (fun c => c == '>' || Text.isWhite c) s
    rw [hc] at hkept
    have hc' : (c == '>' || Text.isWhite c) = false := hkept
    rwa [Bool.or_eq_false_iff, beq_eq_false_iff_ne] at hc'

/-- Trimming first removes white space only, so the markers go as they would in the whole line. -/
theorem dropQuotes_trim {w q t : Text} (hw : Text.isBlank w = true) (hq : IsQuoting q)
    (ht : ∀ c ∈ t.head?, c ≠ '>' ∧ Text.isWhite c = false) :
    dropQuotes (Text.trim (w ++ (q ++ t))) = Text.trimEnd t := by
  have hstart : Text.trim (w ++ (q ++ t)) = Text.trimEnd (q ++ t) := by
    rw [Text.trim, Text.trimStart, List.dropWhile_append_of_pos ((Text.isBlank_iff w).mp hw)]
    congr 1
    cases hq with
    | nil =>
      cases t with
      | nil => rfl
      | cons c cs => exact List.dropWhile_cons_of_neg (Bool.eq_false_iff.mp (ht c rfl).2)
    | cons hw hq => rfl
  rw [hstart]
  cases t with
  | nil =>
    -- White space at the end of the quoting is gone, but what is left is quoting still.
    have hend : IsQuoting (Text.trimEnd (q ++ [])) := by
      rw [List.append_nil]
      exact hq.of_isPrefix (Text.dropEnd_isPrefix _ q)
    have hdrop := dropQuotes_append hend (t := []) fun c hc => by cases hc
    rwa [List.append_nil] at hdrop
  | cons c cs =>
    obtain ⟨hquote, hwhite⟩ := ht c rfl
    have hend : ∀ x : Text, Text.trimEnd (x ++ c :: cs) = x ++ (c :: Text.trimEnd cs) := by
      intro x
      have hlast : ∀ d ∈ (x ++ [c]).getLast?, Text.isWhite d = false := by
        rw [List.getLast?_concat]
        rintro d ⟨rfl⟩
        exact hwhite
      rw [List.append_cons, Text.trimEnd, Text.dropEnd_append_left hlast, List.append_assoc]
      rfl
    have hself := hend []
    rw [List.nil_append, List.nil_append] at hself
    rw [hend q, hself]
    exact dropQuotes_append hq fun d hd => by cases hd; exact ht c rfl

/-! ## Markers -/

def dropMarker (t : Text) : Text :=
  match t with
  | '#' :: _ =>
    let words := t.dropWhile (· == '#')
    if endsMarker words then dropClosingHashes (Text.trimStart words) else t
  | _ => Text.trim (dropListMarker t)

theorem strip_eq (s : Text) : strip s = dropMarker (dropQuotes (Text.trim s)) := rfl

theorem getLast?_hashes (n : Nat) : ∀ c ∈ (hashes n).getLast?, Text.isWhite c = false := by
  intro c hc
  rw [List.eq_of_mem_replicate (List.mem_of_getLast? hc)]
  rfl

theorem getLast?_append_hashes (y : Text) (k : Nat) :
    ∀ c ∈ (y ++ hashes (k + 1)).getLast?, Text.isWhite c = false := by
  have hne : hashes (k + 1) ≠ [] := List.cons_ne_nil _ _
  rw [List.getLast?_append_of_ne_nil y hne]
  exact getLast?_hashes (k + 1)

theorem dropClosingHashes_trimEnd (t : Text) :
    dropClosingHashes (Text.trimEnd t) = dropClosingHashes t := by
  have hsame : Text.trimEnd (Text.trimEnd t) = Text.trimEnd t := List.rdropWhile_idempotent _ _
  rw [dropClosingHashes, dropClosingHashes, hsame]

theorem dropMarker_hashes (n : Nat) {u : Text} (hu : IsApart u) :
    dropMarker (Text.trimEnd (hashes (n + 1) ++ u)) = dropClosingHashes (Text.trim u) := by
  have hend : Text.trimEnd (hashes (n + 1) ++ u) = hashes (n + 1) ++ Text.trimEnd u :=
    Text.dropEnd_append_left (getLast?_hashes (n + 1)) u
  have hapart : IsApart (Text.trimEnd u) := hu.of_isPrefix (Text.dropEnd_isPrefix _ u)
  have hrun : (hashes (n + 1) ++ Text.trimEnd u).dropWhile (· == '#') = Text.trimEnd u :=
    Text.dropWhile_replicate_append '#' (n + 1) (hapart.head?_ne rfl)
  rw [hend]
  show (if endsMarker ((hashes (n + 1) ++ Text.trimEnd u).dropWhile (· == '#')) = true then
    dropClosingHashes (Text.trimStart ((hashes (n + 1) ++ Text.trimEnd u).dropWhile (· == '#')))
    else _) = _
  rw [hrun, if_pos (endsMarker_iff.mpr hapart), ← dropClosingHashes_trimEnd]
  show dropClosingHashes (Text.trim (Text.trimEnd u)) = _
  rw [Text.trim_trimEnd]

theorem dropClosingHashes_of_isClosable {y : Text} (hy : IsClosable y) (k : Nat) :
    dropClosingHashes (y ++ hashes (k + 1)) = Text.trimEnd y := by
  have hend : Text.trimEnd (y ++ hashes (k + 1)) = y ++ hashes (k + 1) :=
    Text.dropEnd_of_getLast? (getLast?_append_hashes y k)
  have hwithout : Text.dropEnd (· == '#') (y ++ hashes (k + 1)) = y := by
    have hall : ∀ c ∈ hashes (k + 1), (c == '#') = true :=
      fun c hc => beq_iff_eq.mpr (List.eq_of_mem_replicate hc)
    rw [Text.dropEnd_append hall]
    apply Text.dropEnd_of_getLast?
    intro c hc
    rw [beq_eq_false_iff_ne]
    rintro rfl
    exact absurd (hy _ hc) (by decide)
  have hlen : y.length ≠ (y ++ hashes (k + 1)).length := by
    rw [List.length_append, hashes, List.length_replicate]
    omega
  simp only [dropClosingHashes, hend, hwithout, decide_eq_false hlen, Bool.false_or]
  cases hlast : y.getLast? with
  | none =>
    rw [List.getLast?_eq_none_iff.mp hlast]
    rfl
  | some c =>
    have hnil : ¬y.isEmpty = true := by
      rintro h
      rw [List.isEmpty_iff.mp h] at hlast
      cases hlast
    rw [if_neg hnil]
    exact if_pos (hy c hlast)

theorem dropClosingHashes_of_not_isClosed {x : Text} (hx : Text.trimEnd x = x)
    (hopen : ¬IsClosed x) : dropClosingHashes x = x := by
  obtain ⟨k, hk⟩ : ∃ k, x = Text.dropEnd (· == '#') x ++ hashes k := Text.exists_dropEnd_run '#' x
  simp only [dropClosingHashes, hx]
  generalize Text.dropEnd (· == '#') x = y at *
  cases k with
  | zero =>
    have hy : x = y := by rw [hk, hashes, List.replicate_zero, List.append_nil]
    rw [hy]
    simp
  | succ k =>
    -- The hashes do not close anything, so something that is no white space is in front of them.
    have hclosable : ¬IsClosable y := fun h => hopen ⟨y, k, hk, h⟩
    have hlen : y.length ≠ x.length := by
      rw [hk, List.length_append, hashes, List.length_replicate]
      omega
    unfold IsClosable at hclosable
    push Not at hclosable
    obtain ⟨c, hc, hwhite⟩ := hclosable
    have hnil : ¬y.isEmpty = true := by
      rintro h
      rw [List.isEmpty_iff.mp h] at hc
      cases hc
    rw [decide_eq_false hlen, Bool.false_or, if_neg hnil, hc]
    exact if_neg hwhite

theorem IsListMarker.exists_cons {m : Text} (hm : IsListMarker m) :
    ∃ c cs, m = c :: cs ∧ c ≠ '#' := by
  cases hm with
  | bullet hc => exact ⟨_, [], rfl, by rcases hc with rfl | rfl | rfl <;> decide⟩
  | @number digits c hlen hdigits hc =>
    obtain ⟨d, ds, rfl⟩ := List.exists_cons_of_length_pos hlen.1
    refine ⟨d, ds ++ [c], rfl, ?_⟩
    rintro rfl
    exact absurd (hdigits _ List.mem_cons_self) (by decide)

theorem IsListMarker.last_not_white {m : Text} (hm : IsListMarker m) :
    ∀ c ∈ m.getLast?, Text.isWhite c = false := by
  cases hm with
  | bullet hc =>
    rintro d ⟨rfl⟩
    rcases hc with rfl | rfl | rfl <;> rfl
  | @number digits c hlen hdigits hc =>
    rw [List.getLast?_concat]
    rintro d ⟨rfl⟩
    rcases hc with rfl | rfl <;> rfl

theorem dropListMarker_append {m v : Text} (hm : IsListMarker m) (hv : IsApart v) :
    dropListMarker (m ++ v) = v := by
  have hends : endsMarker v = true := endsMarker_iff.mpr hv
  cases hm with
  | bullet hc => rcases hc with rfl | rfl | rfl <;> exact if_pos hends
  | @number digits c hlen hdigits hc =>
    have hstop : Text.isDigit c = false := by rcases hc with rfl | rfl <;> rfl
    have htake : (digits ++ c :: v).takeWhile Text.isDigit = digits := by
      rw [List.takeWhile_append_of_pos hdigits,
        List.takeWhile_cons_of_neg (Bool.eq_false_iff.mp hstop), List.append_nil]
    have hdrop : (digits ++ c :: v).dropWhile Text.isDigit = c :: v := by
      rw [List.dropWhile_append_of_pos hdigits,
        List.dropWhile_cons_of_neg (Bool.eq_false_iff.mp hstop)]
    obtain ⟨d, ds, rfl⟩ := List.exists_cons_of_length_pos hlen.1
    have hbullet : ¬((d = '-' || d = '*' || d = '+') = true) := by
      have hd := hdigits d List.mem_cons_self
      simp only [Bool.or_eq_true, decide_eq_true_eq]
      rintro ((rfl | rfl) | rfl) <;> exact absurd hd (by decide)
    have hdelimiter : (c == '.' || c == ')') = true := by rcases hc with rfl | rfl <;> rfl
    have happend : d :: ds ++ [c] ++ v = d :: (ds ++ c :: v) := by simp
    rw [List.cons_append] at htake hdrop
    simp only [happend, dropListMarker, if_neg hbullet, htake, hdrop, hdelimiter, hends, hlen.1,
      hlen.2, decide_true, Bool.and_true, if_true]

theorem dropListMarker_of_none {t : Text}
    (h : ∀ m rest, IsListMarker m → t = m ++ rest → ¬IsApart rest) : dropListMarker t = t := by
  cases t with
  | nil => rfl
  | cons c rest =>
    simp only [dropListMarker]
    split
    · next hbullet =>
      simp only [Bool.or_eq_true, decide_eq_true_eq, or_assoc] at hbullet
      rw [if_neg]
      exact fun hends => h [c] rest (.bullet hbullet) rfl (endsMarker_iff.mp hends)
    · have hsplit : (c :: rest).takeWhile Text.isDigit ++ (c :: rest).dropWhile Text.isDigit =
          c :: rest := List.takeWhile_append_dropWhile
      split
      · next d after hdrop =>
        rw [if_neg]
        intro hnumber
        simp only [Bool.and_eq_true, Bool.or_eq_true, decide_eq_true_eq, beq_iff_eq] at hnumber
        obtain ⟨⟨hlen, hdelimiter⟩, hends⟩ := hnumber
        rw [hdrop, List.append_cons] at hsplit
        exact h _ after (.number hlen (fun _ hd => List.mem_takeWhile_imp hd) hdelimiter)
          hsplit.symm (endsMarker_iff.mp hends)
      · rfl

theorem dropMarker_of_head?_ne {t : Text} (h : t.head? ≠ some '#') :
    dropMarker t = Text.trim (dropListMarker t) := by
  unfold dropMarker
  split
  · exact absurd rfl h
  · rfl

theorem dropMarker_item {m u : Text} (hm : IsListMarker m) (hu : IsApart u) :
    dropMarker (Text.trimEnd (m ++ u)) = Text.trim u := by
  have hend : Text.trimEnd (m ++ u) = m ++ Text.trimEnd u :=
    Text.dropEnd_append_left hm.last_not_white u
  have hapart : IsApart (Text.trimEnd u) := hu.of_isPrefix (Text.dropEnd_isPrefix _ u)
  have hhead : (m ++ Text.trimEnd u).head? ≠ some '#' := by
    obtain ⟨c, cs, rfl, hc⟩ := hm.exists_cons
    exact fun h => hc (Option.some.inj h)
  rw [hend, dropMarker_of_head?_ne hhead, dropListMarker_append hm hapart, Text.trim_trimEnd]

/-- Without a marker, all is kept but white space at the end. -/
theorem dropMarker_plain {t : Text} (ht : ∀ c ∈ t.head?, Text.isWhite c = false)
    (hnone : ∀ m rest, IsMarker m → t = m ++ rest → ¬IsApart rest) :
    dropMarker (Text.trimEnd t) = Text.trimEnd t := by
  obtain ⟨b, hb, hsplit⟩ := Text.exists_trimEnd t
  have htrim : Text.trim (Text.trimEnd t) = Text.trimEnd t := by
    rw [Text.trim_trimEnd]
    cases t with
    | nil => rfl
    | cons c cs => exact Text.trim_cons (ht c rfl) cs
  have hkept : ∀ m rest, IsMarker m → Text.trimEnd t = m ++ rest → ¬IsApart rest := by
    intro m rest hm heq hapart
    refine hnone m (rest ++ b) hm ?_ (hapart.append hb)
    rw [← List.append_assoc, ← heq, ← hsplit]
  generalize Text.trimEnd t = v at *
  unfold dropMarker
  split
  · next cs =>
    have hrun := Text.replicate_append_dropWhile '#' ('#' :: cs)
    rw [List.takeWhile_cons_of_pos rfl] at hrun
    exact if_neg fun hends =>
      hkept (hashes _) _ (.heading _) hrun.symm (endsMarker_iff.mp hends)
  · rw [dropListMarker_of_none fun m rest hm => hkept m rest (.item hm), htrim]

theorem dropMarker_eq_of_encloses {t r : Text} (ht : ∀ c ∈ t.head?, Text.isWhite c = false)
    (hfirst : ∀ c ∈ r.head?, Text.isWhite c = false)
    (hlast : ∀ c ∈ r.getLast?, Text.isWhite c = false) (h : Encloses t r) :
    dropMarker (Text.trimEnd t) = r := by
  cases h with
  | @plain r b hb hnone =>
    rw [dropMarker_plain ht hnone, Text.trimEnd, Text.dropEnd_append ((Text.isBlank_iff b).mp hb)]
    exact Text.dropEnd_of_getLast? hlast
  | item hm hapart hw hb => rw [dropMarker_item hm hapart, Text.trim_append hw hb hfirst hlast]
  | heading n hapart hw hb hopen =>
    rw [dropMarker_hashes n hapart, Text.trim_append hw hb hfirst hlast]
    exact dropClosingHashes_of_not_isClosed (Text.dropEnd_of_getLast? hlast) hopen
  | @closedHeading n k w r gap b hapart hw hgap hb hclosable =>
    rw [dropMarker_hashes n hapart]
    cases r with
    | nil =>
      -- Without words, the gap is white space in front of the closing hashes.
      have hfront : Text.isBlank (w ++ gap) = true := by
        rw [Text.isBlank, List.all_append, Bool.and_eq_true]
        exact ⟨hw, hgap⟩
      have htrim : Text.trim (w ++ ([] ++ (gap ++ (hashes (k + 1) ++ b)))) =
          [] ++ hashes (k + 1) := by
        rw [List.nil_append, List.nil_append, ← List.append_assoc]
        exact Text.trim_append hfront hb (fun c hc => by cases hc; rfl) (getLast?_hashes (k + 1))
      rw [htrim]
      exact dropClosingHashes_of_isClosable (fun c hc => by cases hc) k
    | cons c cs =>
      have htrim : Text.trim (w ++ (c :: cs ++ (gap ++ (hashes (k + 1) ++ b)))) =
          c :: cs ++ gap ++ hashes (k + 1) := by
        rw [← List.append_assoc gap, ← List.append_assoc (c :: cs), ← List.append_assoc (c :: cs)]
        apply Text.trim_append hw hb
        · exact fun d hd => hfirst d hd
        · exact getLast?_append_hashes _ k
      rw [htrim, dropClosingHashes_of_isClosable hclosable k, Text.trimEnd,
        Text.dropEnd_append ((Text.isBlank_iff gap).mp hgap)]
      exact Text.dropEnd_of_getLast? hlast

theorem exists_encloses {t : Text} (ht : ∀ c ∈ t.head?, Text.isWhite c = false) :
    ∃ r, (∀ c ∈ r.head?, Text.isWhite c = false) ∧ (∀ c ∈ r.getLast?, Text.isWhite c = false) ∧
      Encloses t r := by
  by_cases hmarked : ∃ m rest, IsMarker m ∧ t = m ++ rest ∧ IsApart rest
  · obtain ⟨m, u, hm, rfl, hapart⟩ := hmarked
    obtain ⟨w, b, hw, hb, hu⟩ := Text.exists_trim u
    have hfirst := Text.head?_trim u
    have hlast := Text.getLast?_trim u
    generalize Text.trim u = x at *
    subst hu
    cases hm with
    | item hm => exact ⟨x, hfirst, hlast, .item hm hapart hw hb⟩
    | heading n =>
      by_cases hclosed : IsClosed x
      · -- What is in front of the closing hashes are the words and a gap.
        obtain ⟨y, k, rfl, hy⟩ := hclosed
        obtain ⟨gap, hgap, hwords⟩ := Text.exists_trimEnd y
        have hlast' := Text.getLast?_dropEnd Text.isWhite y
        have hfirst' : ∀ c ∈ (Text.trimEnd y).head?, Text.isWhite c = false :=
          Text.forall_head?_of_isPrefix
            ((Text.dropEnd_isPrefix _ y).trans (List.prefix_append y _)) hfirst
        change ∀ c ∈ (Text.trimEnd y).getLast?, _ at hlast'
        generalize Text.trimEnd y = r at *
        subst hwords
        simp only [List.append_assoc] at hapart ⊢
        exact ⟨r, hfirst', hlast', .closedHeading n k hapart hw hgap hb hy⟩
      · exact ⟨x, hfirst, hlast, .heading n hapart hw hb hclosed⟩
  · obtain ⟨b, hb, hsplit⟩ := Text.exists_trimEnd t
    have hlast := Text.getLast?_dropEnd Text.isWhite t
    have hfirst := Text.forall_head?_of_isPrefix (Text.dropEnd_isPrefix Text.isWhite t) ht
    change ∀ c ∈ (Text.trimEnd t).getLast?, _ at hlast
    change ∀ c ∈ (Text.trimEnd t).head?, _ at hfirst
    generalize Text.trimEnd t = r at *
    subst hsplit
    refine ⟨r, hfirst, hlast, .plain hb ?_⟩
    exact fun m rest hm heq hapart => hmarked ⟨m, rest, hm, heq, hapart⟩

/-! ## Lines -/

theorem strip_eq_of_hasWords {s r : Text} (h : HasWords s r) : strip s = r := by
  obtain ⟨hfirst, hlast, w, q, t, rfl, hw, hq, ht, hencloses⟩ := h
  rw [strip_eq, dropQuotes_trim hw hq ht]
  exact dropMarker_eq_of_encloses (fun c hc => (ht c hc).2) hfirst hlast hencloses

theorem exists_hasWords (s : Text) : ∃ r, HasWords s r := by
  obtain ⟨w, q, t, hs, hw, hq, ht⟩ := exists_dropQuotes s
  obtain ⟨r, hfirst, hlast, hencloses⟩ := exists_encloses fun c hc => (ht c hc).2
  exact ⟨r, hfirst, hlast, w, q, t, hs, hw, hq, ht, hencloses⟩

/-- The words of a line are what stripping leaves of it, and nothing else is. White space around the
line makes no difference. -/
theorem strip_eq_iff_hasWords (s : Text) :
    (∀ r, strip s = r ↔ HasWords s r) ∧
      ∀ w w', Text.isBlank w = true → Text.isBlank w' = true →
        strip (w ++ (s ++ w')) = strip s := by
  constructor
  · intro r
    constructor
    · rintro rfl
      obtain ⟨r, hr⟩ := exists_hasWords s
      rwa [strip_eq_of_hasWords hr]
    · exact strip_eq_of_hasWords
  · intro w w' hw hw'
    exact strip_eq_of_trim_eq (Text.trim_append_white hw hw' s)

/-- Two markers of a quotation, a heading with a hash among its words, and hashes that close it. -/
def quotedHeading : Text :=
  ">  >## # C# ###".toList

theorem strip_eq_iff_hasWords_quotedHeading :
    HasWords quotedHeading "# C#".toList ∧
      strip ("\t ".toList ++ (quotedHeading ++ "\u00a0".toList)) = "# C#".toList := by
  obtain ⟨hwords, hwhite⟩ := strip_eq_iff_hasWords quotedHeading
  have hstrip : strip quotedHeading = "# C#".toList := by decide
  exact ⟨(hwords _).mp hstrip, (hwhite _ _ (by decide) (by decide)).trans hstrip⟩

end DocLint.Decoration
