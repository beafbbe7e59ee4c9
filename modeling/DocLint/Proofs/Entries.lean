import Mathlib.Data.List.Nodup
import Mathlib.Tactic.MkIffOfInductiveProp
import DocLint.Manifest
import DocLint.Proofs.Text

/-!
# Spellings of an entry

A piece of the list in a manifest stands for what is left of it without the white space around it,
the `./` before it and the slashes behind it. So the pieces that stand for a proper name are exactly
its spellings, and checking for packaged documentation finds all of them. What is left need not be
in normal form, though: white space behind a `./` or before a slash stays.
-/

namespace DocLint

/-! ## Repetitions -/

namespace Text

theorem dedup_concat (ts : List Text) (t : Text) :
    dedup (ts ++ [t]) = if t ∈ dedup ts then dedup ts else dedup ts ++ [t] := by
  unfold dedup
  rw [List.foldl_append, List.foldl_cons, List.foldl_nil]
  simp only [List.contains_iff_mem, List.mem_reverse]
  split
  · rfl
  · rw [List.reverse_cons]

theorem mem_dedup {t : Text} {ts : List Text} : t ∈ dedup ts ↔ t ∈ ts := by
  induction ts using List.reverseRecOn with
  | nil => rfl
  | append_singleton ts u ih =>
    rw [dedup_concat, List.mem_append, List.mem_singleton, ← ih]
    by_cases hu : u ∈ dedup ts
    · rw [if_pos hu]
      -- A repetition that is left out is among those that were kept.
      exact ⟨.inl, fun h => h.elim id fun htu => htu ▸ hu⟩
    · rw [if_neg hu, List.mem_append, List.mem_singleton]

theorem nodup_dedup (ts : List Text) : (dedup ts).Nodup := by
  induction ts using List.reverseRecOn with
  | nil => exact List.nodup_nil
  | append_singleton ts u ih =>
    rw [dedup_concat]
    by_cases hu : u ∈ dedup ts
    · rwa [if_pos hu]
    · rw [if_neg hu]
      rw [← List.concat_eq_append]
      exact ih.concat hu

/-- What is kept of the texts that meet a condition stands in the order of first occurrence among
all of them. -/
theorem pairwise_idxOf_dedup (p : Text → Bool) (ts : List Text) :
    (dedup (ts.filter p)).Pairwise fun a b => ts.idxOf a < ts.idxOf b := by
  induction ts using List.reverseRecOn with
  | nil => exact List.Pairwise.nil
  | append_singleton ts t ih =>
    have hmem : ∀ {u}, u ∈ dedup (ts.filter p) → u ∈ ts :=
      fun hu => List.mem_of_mem_filter (mem_dedup.mp hu)
    -- A text at the end leaves the others where they occur first.
    have hold : (dedup (ts.filter p)).Pairwise
        fun a b => (ts ++ [t]).idxOf a < (ts ++ [t]).idxOf b := by
      apply ih.imp_of_mem
      intro a b ha hb hab
      rwa [List.idxOf_append_of_mem (hmem ha), List.idxOf_append_of_mem (hmem hb)]
    rw [List.filter_append, List.filter_singleton]
    cases hp : p t with
    | false => rwa [cond_false, List.append_nil]
    | true =>
      rw [cond_true, dedup_concat]
      by_cases ht : t ∈ dedup (ts.filter p)
      · rwa [if_pos ht]
      · rw [if_neg ht, List.pairwise_append]
        refine ⟨hold, List.pairwise_singleton _ t, ?_⟩
        intro a ha b hb
        obtain rfl := List.mem_singleton.mp hb
        have hnew : b ∉ ts := fun hb => ht (mem_dedup.mpr (List.mem_filter.mpr ⟨hb, hp⟩))
        rw [List.idxOf_append_of_mem (hmem ha), List.idxOf_append_of_notMem hnew]
        have hlt : ts.idxOf a < ts.length := List.idxOf_lt_length_of_mem (hmem ha)
        omega

end Text

namespace Manifest

theorem mem_parseList {entry value : Text} :
    entry ∈ parseList value ↔
      entry ≠ [] ∧ ∃ piece ∈ Text.splitAt ',' value, normalEntry piece = entry := by
  unfold parseList
  rw [Text.mem_dedup, List.mem_filter, List.mem_map, Bool.not_eq_true', List.isEmpty_eq_false_iff,
    and_comm]

theorem nodup_parseList (value : Text) : (parseList value).Nodup :=
  Text.nodup_dedup _

/-! ## What is dropped of a piece -/

def heres (n : Nat) : Text :=
  (List.replicate n ['.', '/']).flatten

def slashes (n : Nat) : Text :=
  List.replicate n '/'

theorem heres_succ (n : Nat) : heres (n + 1) = '.' :: '/' :: heres n := rfl

theorem eq_slash_of_mem_slashes {n : Nat} {c : Char} (h : c ∈ slashes n) : c = '/' :=
  List.eq_of_mem_replicate h

theorem eq_of_mem_heres {n : Nat} {c : Char} (h : c ∈ heres n) : c = '.' ∨ c = '/' := by
  obtain ⟨here, hhere, hc⟩ := List.mem_flatten.mp h
  rw [List.eq_of_mem_replicate hhere] at hc
  simpa using hc

theorem dropHere_eq_self {t : Text} (h : ¬['.', '/'] <+: t) : dropHere t = t := by
  unfold dropHere
  split
  · next r => exact absurd (List.prefix_append ['.', '/'] r) h
  · rfl

theorem not_here_dropHere (t : Text) : ¬['.', '/'] <+: dropHere t := by
  fun_induction dropHere t with
  | case1 t ih => exact ih
  | case2 t h =>
    rintro ⟨r, rfl⟩
    exact h r rfl

@[simp] theorem dropHere_heres (n : Nat) (t : Text) : dropHere (heres n ++ t) = dropHere t := by
  induction n with
  | zero => rfl
  | succ n ih =>
    show dropHere (heres n ++ t) = dropHere t
    exact ih

theorem exists_dropHere (t : Text) : ∃ n, t = heres n ++ dropHere t := by
  fun_induction dropHere t with
  | case1 t ih =>
    obtain ⟨n, hn⟩ := ih
    refine ⟨n + 1, ?_⟩
    rw [heres_succ, List.cons_append, List.cons_append, ← hn]
  | case2 t h => exact ⟨0, rfl⟩

theorem exists_dropEnd_slash (t : Text) : ∃ k, t = Text.dropEnd (· == '/') t ++ slashes k :=
  Text.exists_dropEnd_run '/' t

/-- A character that is neither a dot nor a slash stays, with all that stands behind it. -/
theorem exists_dropHere_append {c : Char} (hdot : c ≠ '.') (hslash : c ≠ '/') (r x : Text) :
    ∃ r', dropHere (r ++ c :: x) = r' ++ c :: x := by
  obtain ⟨n, hn⟩ := exists_dropHere (r ++ c :: x)
  rcases List.append_eq_append_iff.mp hn with ⟨a, ha, hx⟩ | ⟨a, -, hx⟩
  · cases a with
    | nil => exact ⟨[], hx.symm⟩
    | cons d ds =>
      -- What was dropped would reach beyond the character.
      have hd : c = d := (List.cons.inj hx).1
      have hmem : c ∈ heres n := by
        rw [ha, hd]
        exact List.mem_append_right r List.mem_cons_self
      rcases eq_of_mem_heres hmem with h | h
      · exact absurd h hdot
      · exact absurd h hslash
  · exact ⟨a, hx⟩

/-- Between the white space at its ends, a piece is what is left of it with `./` and slashes. -/
theorem exists_trim_eq (piece : Text) :
    ∃ n k, Text.trim piece = heres n ++ (normalEntry piece ++ slashes k) := by
  obtain ⟨n, hn⟩ := exists_dropHere (Text.trim piece)
  obtain ⟨k, hk⟩ := exists_dropEnd_slash (dropHere (Text.trim piece))
  refine ⟨n, k, ?_⟩
  rw [normalEntry, ← hk, ← hn]

/-! ## Normal form -/

/-- A text from which nothing is dropped: there is no white space at its ends, no `./` at its
beginning and no slash at its end. -/
@[mk_iff] structure IsNormal (t : Text) : Prop where
  first_not_white : ∀ c ∈ t.head?, Text.isWhite c = false
  last_not_white : ∀ c ∈ t.getLast?, Text.isWhite c = false
  not_here : ¬['.', '/'] <+: t
  last_not_slash : ∀ c ∈ t.getLast?, c ≠ '/'

instance (t : Text) : Decidable (IsNormal t) :=
  -- Only the character at an end is looked at, not all that there are.
  haveI : ∀ end? : Option Char, Decidable (∀ c ∈ end?, Text.isWhite c = false) :=
    Option.decidableForallMem
  haveI : ∀ end? : Option Char, Decidable (∀ c ∈ end?, c ≠ '/') := Option.decidableForallMem
  decidable_of_iff _ (isNormal_iff t).symm

theorem IsNormal.normalEntry_eq {t : Text} (h : IsNormal t) : normalEntry t = t := by
  have htrim : Text.trim t = t := Text.trim_eq_self_iff.mpr ⟨h.first_not_white, h.last_not_white⟩
  have hslash : ∀ c ∈ t.getLast?, (c == '/') = false :=
    fun c hc => beq_eq_false_iff_ne.mpr (h.last_not_slash c hc)
  rw [normalEntry, htrim, dropHere_eq_self h.not_here, Text.dropEnd_of_getLast? hslash]

/-- Whatever a piece is, no `./` is left at its beginning and no slash at its end. -/
theorem normalEntry_ends (piece : Text) :
    ¬['.', '/'] <+: normalEntry piece ∧ ∀ c ∈ (normalEntry piece).getLast?, c ≠ '/' := by
  constructor
  · intro hhere
    exact not_here_dropHere _ (hhere.trans (Text.dropEnd_isPrefix _ _))
  · intro c hc
    exact beq_eq_false_iff_ne.mp (Text.getLast?_dropEnd _ _ c hc)

/-- Nothing is dropped of what is left of a piece if and only if it has no white space at its ends. -/
theorem isNormal_normalEntry_iff {piece : Text} :
    IsNormal (normalEntry piece) ↔ Text.trim (normalEntry piece) = normalEntry piece := by
  obtain ⟨hhere, hslash⟩ := normalEntry_ends piece
  rw [Text.trim_eq_self_iff]
  exact ⟨fun h => ⟨h.first_not_white, h.last_not_white⟩,
    fun ⟨hfirst, hlast⟩ => ⟨hfirst, hlast, hhere, hslash⟩⟩

theorem normalEntry_eq_self_iff {t : Text} : normalEntry t = t ↔ IsNormal t := by
  refine ⟨fun h => ?_, IsNormal.normalEntry_eq⟩
  -- Each of the three steps answers a part of its input, so none of them drops anything.
  have hend : normalEntry t <+: dropHere (Text.trim t) := Text.dropEnd_isPrefix _ _
  have hstart : dropHere (Text.trim t) <:+ Text.trim t := by
    obtain ⟨n, hn⟩ := exists_dropHere (Text.trim t)
    exact ⟨heres n, hn.symm⟩
  have htrim : Text.trim t = t := by
    apply (Text.trim_isInfix t).eq_of_length_le
    have hlength := hend.length_le
    rw [h] at hlength
    exact hlength.trans hstart.length_le
  have hends : IsNormal (normalEntry t) ↔ _ := isNormal_normalEntry_iff
  rw [h] at hends
  exact hends.mpr htrim

/-! ## Spellings -/

/-- `Spells piece name`: the piece is the name with any number of `./` before it and of slashes
behind it, and white space around all of that. -/
def Spells (piece name : Text) : Prop :=
  ∃ a n k b, Text.isBlank a = true ∧ Text.isBlank b = true ∧
    piece = a ++ (heres n ++ (name ++ slashes k) ++ b)

/-- A piece spells what is left of it. -/
theorem spells_normalEntry (piece : Text) : Spells piece (normalEntry piece) := by
  obtain ⟨a, b, ha, hb, hpiece⟩ := Text.exists_trim piece
  obtain ⟨n, k, htrim⟩ := exists_trim_eq piece
  rw [htrim] at hpiece
  exact ⟨a, n, k, b, ha, hb, hpiece⟩

theorem IsNormal.trim_spelling {name : Text} (h : IsNormal name) {a b : Text}
    (ha : Text.isBlank a = true) (hb : Text.isBlank b = true) (n k : Nat) :
    Text.trim (a ++ (heres n ++ (name ++ slashes k) ++ b)) = heres n ++ (name ++ slashes k) := by
  have hdots : ∀ c ∈ heres n, Text.isWhite c = false := by
    intro c hc
    rcases eq_of_mem_heres hc with rfl | rfl <;> rfl
  have hslashes : ∀ c ∈ slashes k, Text.isWhite c = false := by
    intro c hc
    rw [eq_slash_of_mem_slashes hc]
    rfl
  apply Text.trim_append ha hb
  · exact Text.forall_head?_append (fun c hc => hdots c (List.mem_of_head? hc))
      (Text.forall_head?_append h.first_not_white fun c hc => hslashes c (List.mem_of_head? hc))
  · exact Text.forall_getLast?_append (fun c hc => hdots c (List.mem_of_getLast? hc))
      (Text.forall_getLast?_append h.last_not_white
        fun c hc => hslashes c (List.mem_of_getLast? hc))

/-- Slashes behind a text in normal form make a `./` of no text but a dot. -/
theorem IsNormal.not_here_append {name : Text} (h : IsNormal name) (hdot : name ≠ ['.'])
    (k : Nat) : ¬['.', '/'] <+: name ++ slashes k := by
  rintro ⟨r, hr⟩
  rcases name with _ | ⟨c, _ | ⟨d, ds⟩⟩
  · have hmem : '.' ∈ slashes k := by
      rw [List.nil_append] at hr
      rw [← hr]
      exact List.mem_cons_self
    exact absurd (eq_slash_of_mem_slashes hmem) (by decide)
  · exact hdot (congrArg (fun c => [c]) (List.cons.inj hr).1.symm)
  · obtain ⟨rfl, hrest⟩ := List.cons.inj hr
    obtain ⟨rfl, -⟩ := List.cons.inj hrest
    exact h.not_here (List.prefix_append ['.', '/'] ds)

/-- What a piece spells is left of it, if it is in normal form. A dot is an exception: with a slash
behind it, it is dropped itself. -/
theorem Spells.normalEntry_eq {piece name : Text} (h : Spells piece name) (hname : IsNormal name)
    (hdot : name ≠ ['.']) : normalEntry piece = name := by
  obtain ⟨a, n, k, b, ha, hb, rfl⟩ := h
  have hslash : ∀ c ∈ name.getLast?, (c == '/') = false :=
    fun c hc => beq_eq_false_iff_ne.mpr (hname.last_not_slash c hc)
  rw [normalEntry, hname.trim_spelling ha hb, dropHere_heres,
    dropHere_eq_self (hname.not_here_append hdot k),
    Text.dropEnd_append fun c hc => beq_iff_eq.mpr (eq_slash_of_mem_slashes hc),
    Text.dropEnd_of_getLast? hslash]

/-! ## Packaged documentation -/

/-- A name in normal form that is neither empty nor a dot. -/
@[mk_iff] structure IsProper (name : Text) : Prop extends IsNormal name where
  ne_nil : name ≠ []
  ne_here : name ≠ ['.']

instance (name : Text) : Decidable (IsProper name) :=
  decidable_of_iff _ (isProper_iff name).symm

/-- A proper name is an entry of a list if and only if a piece of the list spells it. -/
theorem IsProper.mem_parseList_iff {name : Text} (h : IsProper name) (value : Text) :
    name ∈ parseList value ↔ ∃ piece ∈ Text.splitAt ',' value, Spells piece name := by
  rw [mem_parseList]
  constructor
  · rintro ⟨-, piece, hpiece, rfl⟩
    exact ⟨piece, hpiece, spells_normalEntry piece⟩
  · rintro ⟨piece, hpiece, hspells⟩
    exact ⟨h.ne_nil, piece, hpiece, hspells.normalEntry_eq h.toIsNormal h.ne_here⟩

theorem isProper_map_lowerAscii {t : Text} : IsProper (t.map Text.lowerAscii) ↔ IsProper t := by
  have hslash : ∀ c, Text.lowerAscii c = '/' ↔ c = '/' := fun c => Text.lowerAscii_eq_iff rfl
  have hdot : ∀ c, Text.lowerAscii c = '.' ↔ c = '.' := fun c => Text.lowerAscii_eq_iff rfl
  have hhere : ['.', '/'] <+: t.map Text.lowerAscii ↔ ['.', '/'] <+: t := by
    rcases t with _ | ⟨c, _ | ⟨d, ds⟩⟩
    · simp
    · simp
    · simp only [List.map_cons, List.cons_prefix_cons, List.nil_prefix, and_true,
        eq_comm (a := '.'), eq_comm (a := '/'), hdot, hslash]
  have hone : t.map Text.lowerAscii = ['.'] ↔ t = ['.'] := by
    rcases t with _ | ⟨c, _ | ⟨d, ds⟩⟩ <;> simp [hdot]
  simp only [isProper_iff, isNormal_iff, List.head?_map, List.getLast?_map, Option.mem_def,
    Option.map_eq_some_iff, forall_exists_index, and_imp, forall_apply_eq_imp_iff₂,
    Text.isWhite_lowerAscii, hhere, hone, ne_eq, List.map_eq_nil_iff, hslash]

/-- Letters in another case make another proper name. -/
theorem IsProper.of_same {name name' : Text} (h : IsProper name)
    (hsame : Text.sameIgnoringAsciiCase name' name = true) : IsProper name' := by
  have hmap : name'.map Text.lowerAscii = name.map Text.lowerAscii := beq_iff_eq.mp hsame
  rwa [← isProper_map_lowerAscii, hmap, isProper_map_lowerAscii]

theorem map_rule_check (m : Manifest) (docFile docFolder : Text) :
    (m.check docFile docFolder).map Diagnostic.rule =
      (if ∃ e ∈ m.includes, Text.sameIgnoringAsciiCase e docFile = true then [Rule.docFile.id]
        else []) ++
      if normalEntry docFolder ≠ [] ∧ normalEntry docFolder ∈ m.includes then [Rule.docFolder.id]
      else [] := by
  unfold check
  simp only [List.any_eq_true, Bool.and_eq_true, Bool.not_eq_true', List.isEmpty_eq_false_iff,
    List.contains_iff_mem, List.map_append, apply_ite (List.map Diagnostic.rule)]
  rfl

/-- The documentation folder is reported if and only if a piece of the list spells it, and the
documentation file if and only if a piece spells it with letters of any case. Each of them is
reported at most once, and nothing else is. -/
theorem check_finds_spellings {docFile docFolder : Text} (hfile : IsProper docFile)
    (hfolder : IsProper docFolder) (value : Text) :
    let rules := (check ⟨parseList value⟩ docFile docFolder).map Diagnostic.rule
    (Rule.docFolder.id ∈ rules ↔ ∃ piece ∈ Text.splitAt ',' value, Spells piece docFolder) ∧
    (Rule.docFile.id ∈ rules ↔ ∃ piece ∈ Text.splitAt ',' value, ∃ name,
      Text.sameIgnoringAsciiCase name docFile = true ∧ Spells piece name) ∧
    rules.Nodup ∧ ∀ id ∈ rules, id = Rule.docFile.id ∨ id = Rule.docFolder.id := by
  intro rules
  have hne : Rule.docFile.id ≠ Rule.docFolder.id := by decide
  have hmem : ∀ id, id ∈ rules ↔
      (∃ e ∈ parseList value, Text.sameIgnoringAsciiCase e docFile = true) ∧ id = Rule.docFile.id ∨
        docFolder ∈ parseList value ∧ id = Rule.docFolder.id := by
    intro id
    simp only [rules, map_rule_check, hfolder.normalEntry_eq, List.mem_append,
      List.mem_ite_nil_right, List.mem_singleton, ne_eq, hfolder.ne_nil, not_false_iff, true_and]
  refine ⟨?_, ?_, ?_, ?_⟩
  · rw [hmem, ← hfolder.mem_parseList_iff]
    simp only [hne.symm, and_false, and_true, false_or]
  · rw [hmem]
    simp only [hne, and_false, and_true, or_false]
    constructor
    · rintro ⟨e, he, hsame⟩
      obtain ⟨piece, hpiece, hspells⟩ := ((hfile.of_same hsame).mem_parseList_iff value).mp he
      exact ⟨piece, hpiece, e, hsame, hspells⟩
    · rintro ⟨piece, hpiece, name, hsame, hspells⟩
      have hname := (hfile.of_same hsame).mem_parseList_iff value
      exact ⟨name, hname.mpr ⟨piece, hpiece, hspells⟩, hsame⟩
  · simp only [rules, map_rule_check]
    split <;> split <;> simp [hne]
  · intro id hid
    rcases (hmem id).mp hid with ⟨-, h⟩ | ⟨-, h⟩
    · exact .inl h
    · exact .inr h

theorem check_finds_crookedList :
    let value := "META-INF/,\t././ReadMe.MD// ,.doc,./doc,src/doc".toList
    let rules := (check ⟨parseList value⟩ "README.md".toList "doc".toList).map Diagnostic.rule
    IsProper "README.md".toList ∧ IsProper "doc".toList ∧ Rule.docFolder.id ∈ rules ∧
      Rule.docFile.id ∈ rules ∧ rules.Nodup := by
  intro value rules
  have hfile : IsProper "README.md".toList := by decide
  have hfolder : IsProper "doc".toList := by decide
  obtain ⟨hfolderIff, hfileIff, hnodup, -⟩ := check_finds_spellings hfile hfolder value
  refine ⟨hfile, hfolder, hfolderIff.mpr ?_, hfileIff.mpr ?_, hnodup⟩
  · exact ⟨"./doc".toList, by decide, [], 1, 0, [], rfl, rfl, rfl⟩
  · exact ⟨"\t././ReadMe.MD// ".toList, by decide, "ReadMe.MD".toList, by decide,
      ['\t'], 2, 2, [' '], rfl, rfl, rfl⟩

/-! ## White space that stays -/

section White

variable {piece : Text} {c : Char} (hc : Text.isWhite c = true)

include hc

/-- White space is left at the beginning if and only if it stands behind a `./`. -/
theorem white_mem_head?_iff :
    c ∈ (normalEntry piece).head? ↔ ∃ n r, Text.trim piece = heres (n + 1) ++ c :: r := by
  constructor
  · intro hmem
    obtain ⟨n, k, htrim⟩ := exists_trim_eq piece
    obtain ⟨r, hr⟩ := List.head?_eq_some_iff.mp hmem
    rw [hr] at htrim
    cases n with
    | zero =>
      have hfirst := Text.head?_trim piece c (by rw [htrim]; rfl)
      rw [hc] at hfirst
      cases hfirst
    | succ n => exact ⟨n, r ++ slashes k, htrim⟩
  · rintro ⟨n, r, htrim⟩
    have hhere : ¬['.', '/'] <+: c :: r := by
      intro hhere
      rw [← (List.cons_prefix_cons.mp hhere).1] at hc
      cases hc
    have hslash : (c == '/') = false := beq_eq_false_iff_ne.mpr fun h => by
      rw [h] at hc
      cases hc
    obtain ⟨r', hr'⟩ := Text.exists_dropEnd_cons (p := (· == '/')) hslash r
    rw [normalEntry, htrim, dropHere_heres, dropHere_eq_self hhere, hr']
    rfl

/-- White space is left at the end if and only if it stands before a slash. -/
theorem white_mem_getLast?_iff :
    c ∈ (normalEntry piece).getLast? ↔ ∃ r k, Text.trim piece = r ++ c :: slashes (k + 1) := by
  constructor
  · intro hmem
    obtain ⟨n, k, htrim⟩ := exists_trim_eq piece
    obtain ⟨r, hr⟩ := List.getLast?_eq_some_iff.mp hmem
    rw [hr, ← List.append_assoc, ← List.append_assoc] at htrim
    cases k with
    | zero =>
      have hmem' : c ∈ (Text.trim piece).getLast? := by
        rw [htrim, slashes, List.replicate_zero, List.append_nil, List.getLast?_concat]
        rfl
      have hlast := Text.getLast?_trim piece c hmem'
      rw [hc] at hlast
      cases hlast
    | succ k =>
      rw [← List.append_cons] at htrim
      exact ⟨heres n ++ r, k, htrim⟩
  · rintro ⟨r, k, htrim⟩
    have hdot : c ≠ '.' := by
      rintro rfl
      cases hc
    have hslash : c ≠ '/' := by
      rintro rfl
      cases hc
    obtain ⟨r', hr'⟩ := exists_dropHere_append hdot hslash r (slashes (k + 1))
    have hkept : ∀ d ∈ (r' ++ [c]).getLast?, (d == '/') = false := by
      rw [List.getLast?_concat]
      rintro d ⟨rfl⟩
      exact beq_eq_false_iff_ne.mpr hslash
    rw [normalEntry, htrim, hr', List.append_cons,
      Text.dropEnd_append fun d hd => beq_iff_eq.mpr (eq_slash_of_mem_slashes hd),
      Text.dropEnd_of_getLast? hkept, List.getLast?_concat]
    rfl

end White

/-- A piece has white space that trimming does not reach: behind a `./` at its beginning or before a
slash at its end. -/
def HidesWhite (piece : Text) : Prop :=
  ∃ c, Text.isWhite c = true ∧
    ((∃ n r, Text.trim piece = heres (n + 1) ++ c :: r) ∨
      ∃ r k, Text.trim piece = r ++ c :: slashes (k + 1))

/-- What is left of a piece is in normal form if and only if the piece hides no white space. -/
theorem isNormal_normalEntry_iff_not_hidesWhite {piece : Text} :
    IsNormal (normalEntry piece) ↔ ¬HidesWhite piece := by
  rw [isNormal_normalEntry_iff, Text.trim_eq_self_iff]
  constructor
  · rintro ⟨hfirst, hlast⟩ ⟨c, hc, hleft | hright⟩
    · rw [hfirst c ((white_mem_head?_iff hc).mpr hleft)] at hc
      cases hc
    · rw [hlast c ((white_mem_getLast?_iff hc).mpr hright)] at hc
      cases hc
  · intro hnone
    refine ⟨fun c hmem => ?_, fun c hmem => ?_⟩
    · rw [← Bool.not_eq_true]
      exact fun hc => hnone ⟨c, hc, .inl ((white_mem_head?_iff hc).mp hmem)⟩
    · rw [← Bool.not_eq_true]
      exact fun hc => hnone ⟨c, hc, .inr ((white_mem_getLast?_iff hc).mp hmem)⟩

instance (piece : Text) : Decidable (HidesWhite piece) :=
  decidable_of_iff (¬IsNormal (normalEntry piece))
    (by rw [isNormal_normalEntry_iff_not_hidesWhite, not_not])

theorem forall_mem_parseList_iff {value : Text} :
    (∀ e ∈ parseList value, normalEntry e = e) ↔
      ∀ piece ∈ Text.splitAt ',' value, ¬HidesWhite piece := by
  simp only [← isNormal_normalEntry_iff_not_hidesWhite, ← normalEntry_eq_self_iff, mem_parseList]
  constructor
  · intro h piece hpiece
    by_cases hnil : normalEntry piece = []
    · rw [hnil]
      rfl
    · exact h _ ⟨hnil, piece, hpiece, rfl⟩
  · rintro h e ⟨-, piece, hpiece, rfl⟩
    exact h piece hpiece

/-- The entries of a manifest are in normal form if and only if no piece of its list hides white
space, and an entry that is not differs from its normal form at least by white space at its ends.
Without hidden white space, no two entries have the same normal form, and the documentation folder
is reported whenever an entry has the same normal form. -/
theorem includes_normal_iff (text : Text) :
    let m := parse text
    let tidy := ∀ piece ∈ Text.splitAt ',' ((Properties.value? text property).getD []),
      ¬HidesWhite piece
    ((∀ e ∈ m.includes, normalEntry e = e) ↔ tidy) ∧
    (∀ e ∈ m.includes, normalEntry e = e ↔ Text.trim e = e) ∧
    (tidy → (m.includes.map normalEntry).Nodup ∧
      ∀ docFile docFolder, ∀ e ∈ m.includes, normalEntry e = normalEntry docFolder →
        Rule.docFolder.id ∈ (m.check docFile docFolder).map Diagnostic.rule) := by
  intro m tidy
  refine ⟨forall_mem_parseList_iff, ?_, ?_⟩
  · intro e he
    obtain ⟨-, piece, -, rfl⟩ := mem_parseList.mp he
    rw [normalEntry_eq_self_iff, isNormal_normalEntry_iff]
  · intro htidy
    have hnormal : ∀ e ∈ m.includes, normalEntry e = e := forall_mem_parseList_iff.mpr htidy
    constructor
    · rw [List.map_congr_left hnormal, List.map_id']
      exact nodup_parseList _
    · intro docFile docFolder e he hsame
      have hne : e ≠ [] := (mem_parseList.mp he).1
      rw [hnormal e he] at hsame
      rw [map_rule_check, ← hsame, List.mem_append]
      right
      rw [if_pos ⟨hne, he⟩]
      exact List.mem_cons_self

theorem includes_normal_spacedText :
    let text := "bin.includes=./doc/,\\ a b ,/ c,lib".toList
    let m := parse text
    m.includes = ["doc".toList, "a b".toList, "/ c".toList, "lib".toList] ∧
      (∀ piece ∈ Text.splitAt ',' ((Properties.value? text property).getD []),
        ¬HidesWhite piece) ∧
      (∀ e ∈ m.includes, normalEntry e = e) ∧ (m.includes.map normalEntry).Nodup := by
  intro text m
  have htidy : ∀ piece ∈ Text.splitAt ',' ((Properties.value? text property).getD []),
      ¬HidesWhite piece := by decide
  obtain ⟨hnormal, -, hdistinct⟩ := includes_normal_iff text
  exact ⟨by decide, htidy, hnormal.mpr htidy, (hdistinct htidy).1⟩

/-- White space behind a `./` and before a slash stays: the documentation folder is not recognised,
and two entries have one normal form. -/
theorem includes_keep_hidden_white :
    let m := parse "bin.includes=./ doc,lib /,lib".toList
    m.includes = [" doc".toList, "lib ".toList, "lib".toList] ∧
      ¬(∀ e ∈ m.includes, normalEntry e = e) ∧ ¬(m.includes.map normalEntry).Nodup ∧
      normalEntry " doc".toList = normalEntry "doc".toList ∧
      m.check "README.md".toList "doc".toList = [] := by
  decide

end Manifest

end DocLint
