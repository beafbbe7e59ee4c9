import DocLint.Proofs.Includes
import DocLint.Proofs.Properties.Concat

/-!
# The list of a manifest

A later definition of the list takes the place of an earlier one. The entries are what is left of
the pieces of the list: none is lost, none comes twice, and they stand in the order in which the
pieces name them first.
-/

namespace DocLint

namespace Text

theorem not_mem_of_mem_splitAt {sep : Char} {t piece : Text} (h : piece ∈ splitAt sep t) :
    sep ∉ piece := by
  induction t generalizing piece with
  | nil =>
    rw [List.mem_singleton.mp h]
    exact List.not_mem_nil
  | cons c cs ih =>
    rw [splitAt] at h
    by_cases hc : c = sep
    · rw [if_pos hc, List.mem_cons] at h
      rcases h with rfl | h
      · exact List.not_mem_nil
      · exact ih h
    · rw [if_neg hc] at h
      cases hs : splitAt sep cs with
      | nil => exact absurd hs (splitAt_ne_nil sep cs)
      | cons first more =>
        rw [hs] at h ih
        rcases List.mem_cons.mp h with rfl | h
        · -- The character goes to the first piece, and it is no separator.
          rw [List.mem_cons, not_or]
          exact ⟨fun hsep => hc hsep.symm, ih List.mem_cons_self⟩
        · exact ih (List.mem_cons_of_mem first h)

end Text

/-! ## The definition that counts -/

namespace Properties

variable {text key value : Text}

/-- What a key stands for: the value of its last definition, or nothing if it has none. -/
def StandsFor (text key value : Text) : Prop :=
  (∃ before after, entries text = before ++ (key, value) :: after ∧ ∀ d ∈ after, d.1 ≠ key) ∨
    ¬Defines text key ∧ value = []

theorem value?_eq_some_iff :
    value? text key = some value ↔
      ∃ before after, entries text = before ++ (key, value) :: after ∧ ∀ d ∈ after, d.1 ≠ key := by
  unfold value?
  rw [Option.map_eq_some_iff]
  constructor
  · rintro ⟨⟨key', value'⟩, hfind, rfl⟩
    obtain ⟨hkey, after, before, hentries, hafter⟩ := List.find?_eq_some_iff_append.mp hfind
    -- The search runs backwards, so what it passed over stands behind.
    refine ⟨before.reverse, after.reverse, ?_, ?_⟩
    · rw [← List.reverse_reverse (entries text), hentries, ← beq_iff_eq.mp hkey]
      simp only [List.reverse_append, List.reverse_cons, List.append_assoc, List.singleton_append]
    · intro d hd
      simpa using hafter d (List.mem_reverse.mp hd)
  · rintro ⟨before, after, hentries, hafter⟩
    refine ⟨(key, value), List.find?_eq_some_iff_append.mpr ⟨beq_self_eq_true key, ?_⟩, rfl⟩
    refine ⟨after.reverse, before.reverse, ?_, ?_⟩
    · rw [hentries]
      simp only [List.reverse_append, List.reverse_cons, List.append_assoc, List.singleton_append]
    · intro d hd
      simpa using hafter d (List.mem_reverse.mp hd)

theorem standsFor_iff : StandsFor text key value ↔ (value? text key).getD [] = value := by
  unfold StandsFor
  rw [← value?_eq_some_iff, ← value?_eq_none_iff]
  cases value? text key with
  | none => simp [eq_comm]
  | some v => simp

end Properties

namespace Manifest

/-! ## Entries of a list -/

theorem normalEntry_isInfix (piece : Text) : normalEntry piece <:+: piece := by
  obtain ⟨n, k, htrim⟩ := exists_trim_eq piece
  have hmiddle : normalEntry piece <:+: Text.trim piece := by
    rw [htrim, ← List.append_assoc]
    exact ⟨heres n, slashes k, rfl⟩
  exact hmiddle.trans (Text.trim_isInfix piece)

/-- What the entries of every list are like. -/
structure IsClean (e : Text) : Prop where
  ne_nil : e ≠ []
  no_comma : ',' ∉ e
  not_here : ¬['.', '/'] <+: e
  last_not_slash : ∀ c ∈ e.getLast?, c ≠ '/'

theorem isClean_of_mem_parseList {e value : Text} (h : e ∈ parseList value) : IsClean e := by
  obtain ⟨hne, piece, hpiece, rfl⟩ := mem_parseList.mp h
  obtain ⟨hhere, hslash⟩ := normalEntry_ends piece
  have hcomma : ',' ∉ piece := Text.not_mem_of_mem_splitAt hpiece
  exact ⟨hne, fun hmem => hcomma ((normalEntry_isInfix piece).subset hmem), hhere, hslash⟩

/-- The entries of a manifest are the values of the pieces of its list, as far as they are not
empty: each of them once, in the order of first occurrence. They are without commas, `./` before
them and slashes behind them. -/
theorem includes_firstOccurrences (text : Text) :
    ∃ value, Properties.StandsFor text property value ∧
      let es := (parse text).includes
      let values := (Text.splitAt ',' value).map normalEntry
      es.Nodup ∧ (∀ e ∈ es, IsClean e) ∧ (∀ e, e ∈ es ↔ e ≠ [] ∧ e ∈ values) ∧
        es.Pairwise fun e e' => values.idxOf e < values.idxOf e' := by
  refine ⟨(Properties.value? text property).getD [], Properties.standsFor_iff.mpr rfl, ?_⟩
  intro es values
  refine ⟨nodup_parseList _, fun e he => isClean_of_mem_parseList he, ?_, ?_⟩
  · intro e
    rw [List.mem_map]
    exact mem_parseList
  · exact Text.pairwise_idxOf_dedup _ values

/-- Of two definitions the later one counts. A comma that is escaped separates as any other, and
white space behind a `./` sets an entry apart. -/
def redefinedText : Text :=
  "bin.includes=old\nbin.includes=./b/,a\\,b,,./ b,\\\n  ././a//,c".toList

theorem includes_firstOccurrences_redefinedText :
    let es := (parse redefinedText).includes
    let value := "./b/,a,b,,./ b,././a//,c".toList
    let values := (Text.splitAt ',' value).map normalEntry
    Properties.StandsFor redefinedText property value ∧
      es = ["b".toList, "a".toList, " b".toList, "c".toList] ∧ es.Nodup ∧ (∀ e ∈ es, IsClean e) ∧
      es.Pairwise fun e e' => values.idxOf e < values.idxOf e' := by
  obtain ⟨value, hvalue, hnodup, hclean, -, hfirst⟩ := includes_firstOccurrences redefinedText
  have heq : "./b/,a,b,,./ b,././a//,c".toList = value := by
    rw [← Properties.standsFor_iff.mp hvalue]
    decide
  subst heq
  exact ⟨hvalue, by decide, hnodup, hclean, hfirst⟩

end Manifest

end DocLint
