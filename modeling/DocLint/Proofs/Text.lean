import Mathlib.Data.List.DropRight
import DocLint.Text.Basic

/-!
# Blank texts, trimming and occurrences

A text is blank exactly if trimming leaves nothing of it, and trimming, like every way of dropping
characters at the ends, answers a part of the text. `occursIn` decides whether one text is such a
part of another.
-/

namespace DocLint.Text

/-! ## Blank texts -/

theorem isBlank_iff (t : Text) : isBlank t = true ↔ ∀ c ∈ t, isWhite c = true := by
  rw [isBlank, List.all_eq_true]

theorem dropEnd_eq_rdropWhile (p : Char → Bool) (t : Text) : dropEnd p t = t.rdropWhile p := rfl

theorem dropEnd_append {p : Char → Bool} {b : Text} (hb : ∀ c ∈ b, p c = true) (t : Text) :
    dropEnd p (t ++ b) = dropEnd p t := by
  rw [dropEnd, dropEnd, List.reverse_append,
    List.dropWhile_append_of_pos fun c hc => hb c (List.mem_reverse.mp hc)]

theorem dropEnd_of_getLast? {p : Char → Bool} {t : Text} (h : ∀ c ∈ t.getLast?, p c = false) :
    dropEnd p t = t := by
  rw [dropEnd_eq_rdropWhile, List.rdropWhile_eq_self_iff]
  intro hne
  rw [h _ (List.getLast?_eq_some_getLast hne)]
  exact Bool.false_ne_true

theorem getLast?_dropEnd (p : Char → Bool) (t : Text) :
    ∀ c ∈ (dropEnd p t).getLast?, p c = false := by
  intro c hc
  rw [dropEnd_eq_rdropWhile] at hc
  have hne : t.rdropWhile p ≠ [] := List.ne_nil_of_mem (List.mem_of_getLast? hc)
  rw [List.getLast?_eq_some_getLast hne] at hc
  cases hc
  exact Bool.eq_false_iff.mpr (List.rdropWhile_last_not p t hne)

theorem trim_eq_nil_iff (t : Text) : trim t = [] ↔ isBlank t = true := by
  rw [trim, trimEnd, dropEnd_eq_rdropWhile, List.rdropWhile_eq_nil_iff, trimStart, isBlank_iff]
  constructor
  · intro h c hc
    -- What is in front of the first character that is kept is white, and so is what is kept.
    rw [← List.takeWhile_append_dropWhile (p := isWhite) (l := t), List.mem_append] at hc
    rcases hc with hc | hc
    · exact List.mem_takeWhile_imp hc
    · exact h c hc
  · intro h c hc
    exact h c ((List.dropWhile_suffix isWhite).subset hc)

theorem isBlank_eq_of_trim_eq {s t : Text} (h : trim s = trim t) : isBlank s = isBlank t := by
  rw [Bool.eq_iff_iff, ← trim_eq_nil_iff, ← trim_eq_nil_iff, h]

theorem trim_dropWhile {p : Char → Bool} (hp : ∀ c, p c = true → isWhite c = true) (t : Text) :
    trim (t.dropWhile p) = trim t := by
  have hstart : trimStart (t.dropWhile p) = trimStart t := by
    induction t with
    | nil => rfl
    | cons c cs ih =>
      rw [List.dropWhile_cons]
      split
      · next hc => rw [ih, trimStart, trimStart, List.dropWhile_cons_of_pos (hp c hc)]
      · rfl
  rw [trim, trim, hstart]

theorem exists_trimEnd (t : Text) : ∃ b, isBlank b = true ∧ t = trimEnd t ++ b := by
  refine ⟨t.rtakeWhile isWhite, ?_, List.rdropWhile_append_rtakeWhile.symm⟩
  rw [isBlank_iff]
  exact fun c hc => List.mem_rtakeWhile_imp hc

/-- A text is what trimming leaves of it, with blank texts on both sides. -/
theorem exists_trim (t : Text) :
    ∃ a b, isBlank a = true ∧ isBlank b = true ∧ t = a ++ (trim t ++ b) := by
  obtain ⟨b, hb, hend⟩ := exists_trimEnd (trimStart t)
  refine ⟨t.takeWhile isWhite, b, ?_, hb, ?_⟩
  · rw [isBlank_iff]
    exact fun c hc => List.mem_takeWhile_imp hc
  · rw [trim, ← hend, trimStart, List.takeWhile_append_dropWhile]

theorem forall_head?_append {P : Char → Prop} {s t : Text} (hs : ∀ c ∈ s.head?, P c)
    (ht : ∀ c ∈ t.head?, P c) : ∀ c ∈ (s ++ t).head?, P c := by
  intro c hc
  rw [List.head?_append, Option.mem_def, Option.or_eq_some_iff] at hc
  rcases hc with hc | ⟨-, hc⟩
  · exact hs c hc
  · exact ht c hc

theorem forall_head?_of_isPrefix {P : Char → Prop} {s t : Text} (hs : s <+: t)
    (ht : ∀ c ∈ t.head?, P c) : ∀ c ∈ s.head?, P c := by
  intro c hc
  obtain ⟨r, rfl⟩ := hs
  apply ht c
  rw [List.head?_append, hc]
  rfl

theorem forall_getLast?_append {P : Char → Prop} {s t : Text} (hs : ∀ c ∈ s.getLast?, P c)
    (ht : ∀ c ∈ t.getLast?, P c) : ∀ c ∈ (s ++ t).getLast?, P c := by
  intro c hc
  rw [List.getLast?_append, Option.mem_def, Option.or_eq_some_iff] at hc
  rcases hc with hc | ⟨-, hc⟩
  · exact ht c hc
  · exact hs c hc

/-- What is dropped at the end does not reach beyond a character that stays. -/
theorem dropEnd_append_left {p : Char → Bool} {s : Text} (hs : ∀ c ∈ s.getLast?, p c = false)
    (t : Text) : dropEnd p (s ++ t) = s ++ dropEnd p t := by
  have hsplit : dropEnd p t ++ t.rtakeWhile p = t := List.rdropWhile_append_rtakeWhile
  conv_lhs =>
    rw [← hsplit, ← List.append_assoc, dropEnd_append fun c hc => List.mem_rtakeWhile_imp hc]
  apply dropEnd_of_getLast?
  exact forall_getLast?_append hs (getLast?_dropEnd p t)

theorem trim_append_of_isBlank {b : Text} (hb : isBlank b = true) (t : Text) :
    trim (t ++ b) = trim t := by
  rw [isBlank_iff] at hb
  rw [trim, trim, trimStart, trimStart, List.dropWhile_append]
  split
  · next hempty =>
    rw [List.isEmpty_iff.mp hempty, List.dropWhile_eq_nil_iff.mpr hb]
  · rw [trimEnd, trimEnd, dropEnd_append hb]

theorem trim_trimEnd (t : Text) : trim (trimEnd t) = trim t := by
  obtain ⟨b, hb, ht⟩ := exists_trimEnd t
  conv_rhs => rw [ht, trim_append_of_isBlank hb]

theorem trim_append_white {a b : Text} (ha : isBlank a = true) (hb : isBlank b = true) (t : Text) :
    trim (a ++ (t ++ b)) = trim t := by
  rw [isBlank_iff] at ha
  rw [← List.append_assoc, trim_append_of_isBlank hb, trim, trimStart,
    List.dropWhile_append_of_pos ha]
  rfl

theorem trim_cons {c : Char} (hc : isWhite c = false) (t : Text) :
    trim (c :: t) = trimEnd (c :: t) := by
  rw [trim, trimStart, List.dropWhile_cons_of_neg (Bool.eq_false_iff.mp hc)]

theorem trim_eq_self {t : Text} (hhead : ∀ c ∈ t.head?, isWhite c = false)
    (hlast : ∀ c ∈ t.getLast?, isWhite c = false) : trim t = t := by
  cases t with
  | nil => rfl
  | cons c cs => rw [trim_cons (hhead c rfl), trimEnd, dropEnd_of_getLast? hlast]

/-- Trimming removes blank texts on both sides, and nothing of a text without white space at its
ends. -/
theorem trim_append {a b : Text} (ha : isBlank a = true) (hb : isBlank b = true) {t : Text}
    (hhead : ∀ c ∈ t.head?, isWhite c = false) (hlast : ∀ c ∈ t.getLast?, isWhite c = false) :
    trim (a ++ (t ++ b)) = t := by
  rw [trim_append_white ha hb, trim_eq_self hhead hlast]

/-! ## Parts of a text -/

theorem dropEnd_isPrefix (p : Char → Bool) (t : Text) : dropEnd p t <+: t := by
  rw [dropEnd_eq_rdropWhile]
  exact List.rdropWhile_prefix p t

theorem trim_isInfix (t : Text) : trim t <:+: t :=
  (dropEnd_isPrefix isWhite _).isInfix.trans (List.dropWhile_suffix isWhite).isInfix

/-- What stands in front does not change what is dropped at the end. -/
theorem trimEnd_isSuffix_append (s t : Text) : trimEnd t <:+ trimEnd (s ++ t) := by
  rw [trimEnd, trimEnd, dropEnd, dropEnd, List.reverse_append, List.dropWhile_append]
  split
  · next hempty =>
    rw [List.isEmpty_iff.mp hempty]
    exact List.nil_suffix
  · rw [List.reverse_append, List.reverse_reverse]
    exact List.suffix_append s _

theorem exists_dropEnd_cons {p : Char → Bool} {c : Char} (hc : p c = false) (t : Text) :
    ∃ r, dropEnd p (c :: t) = c :: r := by
  rcases List.prefix_cons_iff.mp (dropEnd_isPrefix p (c :: t)) with hnil | ⟨r, hr, -⟩
  · rw [dropEnd_eq_rdropWhile, List.rdropWhile_eq_nil_iff] at hnil
    have hdropped := hnil c List.mem_cons_self
    rw [hc] at hdropped
    cases hdropped
  · exact ⟨r, hr⟩

theorem exists_trimEnd_cons {c : Char} (hc : isWhite c = false) (t : Text) :
    ∃ r, trimEnd (c :: t) = c :: r :=
  exists_dropEnd_cons hc t

theorem head?_trim (t : Text) : ∀ c ∈ (trim t).head?, isWhite c = false := by
  intro c hc
  have hstart := List.head?_dropWhile_not isWhite t
  unfold trim trimStart at hc
  cases hkept : t.dropWhile isWhite with
  | nil =>
    rw [hkept] at hc
    cases hc
  | cons d ds =>
    rw [hkept] at hc hstart
    obtain ⟨r, hr⟩ := exists_trimEnd_cons hstart ds
    rw [hr] at hc
    cases hc
    exact hstart

theorem getLast?_trim (t : Text) : ∀ c ∈ (trim t).getLast?, isWhite c = false :=
  getLast?_dropEnd isWhite _

theorem trim_eq_self_iff {t : Text} :
    trim t = t ↔ (∀ c ∈ t.head?, isWhite c = false) ∧ ∀ c ∈ t.getLast?, isWhite c = false := by
  constructor
  · intro h
    rw [← h]
    exact ⟨head?_trim t, getLast?_trim t⟩
  · rintro ⟨hhead, hlast⟩
    exact trim_eq_self hhead hlast

theorem after?_eq_some_iff (b t r : Text) : after? b t = some r ↔ t = b ++ r := by
  induction b generalizing t with
  | nil => simp [after?]
  | cons b bs ih =>
    cases t with
    | nil => simp [after?]
    | cons c cs =>
      by_cases h : b = c
      · subst h
        simp [after?, ih]
      · simp [after?, h, Ne.symm h]

theorem startsWith_iff_isPrefix (b t : Text) : startsWith b t = true ↔ b <+: t := by
  rw [startsWith, Option.isSome_iff_exists]
  constructor
  · rintro ⟨r, hr⟩
    exact ⟨r, ((after?_eq_some_iff b t r).mp hr).symm⟩
  · rintro ⟨r, hr⟩
    exact ⟨r, (after?_eq_some_iff b t r).mpr hr.symm⟩

theorem occursIn_iff_isInfix (needle t : Text) : occursIn needle t = true ↔ needle <:+: t := by
  induction t with
  | nil => simp [occursIn]
  | cons c cs ih =>
    rw [occursIn, Bool.or_eq_true, startsWith_iff_isPrefix, ih, List.infix_cons_iff]

/-! ## Runs of a character -/

theorem takeWhile_replicate_append (c : Char) (n : Nat) {t : Text} (ht : t.head? ≠ some c) :
    (List.replicate n c ++ t).takeWhile (· == c) = List.replicate n c := by
  rw [List.takeWhile_append_of_pos fun d hd => beq_iff_eq.mpr (List.eq_of_mem_replicate hd)]
  cases t with
  | nil => exact List.append_nil _
  | cons d ds =>
    rw [List.takeWhile_cons_of_neg, List.append_nil]
    rw [beq_iff_eq]
    exact fun h => ht (congrArg some h)

theorem dropWhile_replicate_append (c : Char) (n : Nat) {t : Text} (ht : t.head? ≠ some c) :
    (List.replicate n c ++ t).dropWhile (· == c) = t := by
  rw [List.dropWhile_append_of_pos fun d hd => beq_iff_eq.mpr (List.eq_of_mem_replicate hd)]
  cases t with
  | nil => rfl
  | cons d ds =>
    apply List.dropWhile_cons_of_neg
    rw [beq_iff_eq]
    exact fun h => ht (congrArg some h)

/-- A text is the run of a character at its front and the rest. -/
theorem replicate_append_dropWhile (c : Char) (t : Text) :
    List.replicate (t.takeWhile (· == c)).length c ++ t.dropWhile (· == c) = t := by
  have hrun : t.takeWhile (· == c) = List.replicate (t.takeWhile (· == c)).length c := by
    rw [List.eq_replicate_iff]
    refine ⟨rfl, fun d hd => ?_⟩
    have hd' := List.mem_takeWhile_imp hd
    rwa [beq_iff_eq] at hd'
  rw [← hrun, List.takeWhile_append_dropWhile]

theorem head?_dropWhile_ne (c : Char) (t : Text) : (t.dropWhile (· == c)).head? ≠ some c := by
  intro hhead
  have hkept := List.head?_dropWhile_not (· == c) t
  rw [hhead] at hkept
  simp at hkept

/-- The run at the front of a text is as long as it can be. -/
theorem exists_run_of_isPrefix {c : Char} {k : Nat} {t : Text} (h : List.replicate k c <+: t) :
    ∃ n words, k ≤ n ∧ words.head? ≠ some c ∧ t = List.replicate n c ++ words := by
  refine ⟨(t.takeWhile (· == c)).length, t.dropWhile (· == c), ?_, head?_dropWhile_ne c t,
    (replicate_append_dropWhile c t).symm⟩
  obtain ⟨r, rfl⟩ := h
  have hrun : ∀ d ∈ List.replicate k c, (d == c) = true :=
    fun d hd => beq_iff_eq.mpr (List.eq_of_mem_replicate hd)
  rw [List.takeWhile_append_of_pos hrun, List.length_append, List.length_replicate]
  exact Nat.le_add_right k _

theorem exists_dropEnd_run (c : Char) (t : Text) :
    ∃ k, t = dropEnd (· == c) t ++ List.replicate k c := by
  refine ⟨(t.rtakeWhile (· == c)).length, ?_⟩
  have hrun : t.rtakeWhile (· == c) = List.replicate (t.rtakeWhile (· == c)).length c :=
    List.eq_replicate_of_mem fun d hd => by
      have hd' := List.mem_rtakeWhile_imp hd
      exact beq_iff_eq.mp hd'
  rw [← hrun, dropEnd_eq_rdropWhile, List.rdropWhile_append_rtakeWhile]

/-! ## Characters -/

theorem toNat_ofNat {n : Nat} (h : n.isValidChar) : (Char.ofNat n).toNat = n := by
  unfold Char.ofNat
  rw [dif_pos h]
  rfl

/-- The lower case form differs from the character only if that is one of `A` to `Z`. -/
theorem lowerAscii_cases (c : Char) :
    lowerAscii c = c ∨ 65 ≤ c.toNat ∧ c.toNat ≤ 90 ∧ (lowerAscii c).toNat = c.toNat + 32 := by
  unfold lowerAscii
  by_cases h : ('A' ≤ c && c ≤ 'Z') = true
  · right
    rw [if_pos h]
    rw [Bool.and_eq_true, decide_eq_true_iff, decide_eq_true_iff] at h
    have hfirst : 65 ≤ c.toNat := h.1
    have hlast : c.toNat ≤ 90 := h.2
    exact ⟨hfirst, hlast, toNat_ofNat (.inl (by omega))⟩
  · exact .inl (if_neg h)

/-- Characters that are no letters are the lower case form of themselves only. -/
theorem lowerAscii_eq_iff {c d : Char} (hd : isLetter d = false) : lowerAscii c = d ↔ c = d := by
  rcases lowerAscii_cases c with h | ⟨hfirst, hlast, h⟩
  · rw [h]
  · have hletter : ¬(97 ≤ d.toNat ∧ d.toNat ≤ 122 ∨ 65 ≤ d.toNat ∧ d.toNat ≤ 90) := by
      intro hrange
      have htrue : isLetter d = true := by
        unfold isLetter
        simp only [Bool.or_eq_true, Bool.and_eq_true, decide_eq_true_eq]
        exact hrange
      rw [hd] at htrue
      cases htrue
    constructor
    · rintro rfl
      omega
    · rintro rfl
      omega

theorem isWhite_lowerAscii (c : Char) : isWhite (lowerAscii c) = isWhite c := by
  rcases lowerAscii_cases c with h | ⟨hfirst, hlast, h⟩
  · rw [h]
  · unfold isWhite
    rw [h, Bool.eq_iff_iff]
    simp only [Bool.or_eq_true, Bool.and_eq_true, decide_eq_true_eq, beq_iff_eq]
    omega

end DocLint.Text
