import DocLint.Proofs.Entries
import DocLint.Proofs.Path

/-!
# Packaged paths

An entry of a manifest packages the path that it names and everything below it. That is said of
names between slashes: the names of the entry are the first names of the path. Checking compares
characters and looks at the one behind the entry, which comes to the same. A file that is reported
as missing is packaged once the entry that the report suggests is added to the list.
-/

namespace DocLint

/-! ## Pieces of a text -/

namespace Text

theorem splitAt_eq_splitOn (sep : Char) (t : Text) : splitAt sep t = t.splitOn sep := by
  unfold List.splitOn
  induction t with
  | nil => rfl
  | cons c cs ih =>
    rw [splitAt, List.splitOnP_cons_eq_if_modifyHead, ← ih]
    by_cases hc : c = sep
    · rw [if_pos hc, if_pos (beq_iff_eq.mpr hc)]
    · rw [if_neg hc, if_neg (by rwa [beq_iff_eq])]
      cases hs : splitAt sep cs with
      | nil => exact absurd hs (splitAt_ne_nil sep cs)
      | cons piece pieces => rfl

theorem joinWith_eq_intercalate (sep : Text) (pieces : List Text) :
    joinWith sep pieces = sep.intercalate pieces := by
  fun_induction joinWith sep pieces with
  | case1 => rw [List.intercalate_nil]
  | case2 piece => rw [List.intercalate_singleton]
  | case3 piece pieces hne ih =>
    obtain ⟨next, more, rfl⟩ := List.exists_cons_of_ne_nil hne
    rw [ih, List.intercalate_cons_cons]

theorem joinWith_splitAt (sep : Char) (t : Text) : joinWith [sep] (splitAt sep t) = t := by
  rw [joinWith_eq_intercalate, splitAt_eq_splitOn, List.intercalate_splitOn]

theorem splitAt_joinWith {sep : Char} {pieces : List Text} (hsep : ∀ piece ∈ pieces, sep ∉ piece)
    (hne : pieces ≠ []) : splitAt sep (joinWith [sep] pieces) = pieces := by
  rw [joinWith_eq_intercalate, splitAt_eq_splitOn, List.splitOn_intercalate sep hsep hne]

theorem joinWith_append (sep : Text) {xs ys : List Text} (hxs : xs ≠ []) (hys : ys ≠ []) :
    joinWith sep (xs ++ ys) = joinWith sep xs ++ (sep ++ joinWith sep ys) := by
  simp only [joinWith_eq_intercalate]
  induction xs with
  | nil => exact absurd rfl hxs
  | cons x xs ih =>
    cases xs with
    | nil =>
      obtain ⟨y, ys, rfl⟩ := List.exists_cons_of_ne_nil hys
      rw [List.singleton_append, List.intercalate_cons_cons, List.intercalate_singleton,
        List.append_assoc]
    | cons x' xs =>
      have hrest := ih (List.cons_ne_nil x' xs)
      rw [List.cons_append] at hrest
      rw [List.cons_append, List.cons_append, List.intercalate_cons_cons, hrest,
        List.intercalate_cons_cons]
      simp only [List.append_assoc]

/-- The pieces of a text come first among those of another if and only if the other text is the same
or goes on with a separator. -/
theorem splitAt_isPrefix_iff {sep : Char} {s t : Text} :
    splitAt sep s <+: splitAt sep t ↔ t = s ∨ ∃ r, t = s ++ sep :: r := by
  constructor
  · -- Joining the pieces again gives the text back, and further ones stand behind a separator.
    rintro ⟨rest, hrest⟩
    rw [← joinWith_splitAt sep t, ← hrest]
    by_cases hnil : rest = []
    · left
      rw [hnil, List.append_nil, joinWith_splitAt]
    · right
      refine ⟨joinWith [sep] rest, ?_⟩
      rw [joinWith_append [sep] (splitAt_ne_nil sep s) hnil, joinWith_splitAt]
      rfl
  · rintro (rfl | ⟨r, rfl⟩)
    · exact List.prefix_rfl
    · rw [splitAt_append]
      exact List.prefix_append _ _

theorem head?_splitAt (sep : Char) (t : Text) :
    (splitAt sep t).head? = some (t.takeWhile (· != sep)) := by
  induction t with
  | nil => rfl
  | cons c cs ih =>
    rw [splitAt]
    by_cases hc : c = sep
    · rw [if_pos hc, List.takeWhile_cons_of_neg (by simp [hc])]
      rfl
    · rw [if_neg hc, List.takeWhile_cons_of_pos (by simp [hc])]
      cases hs : splitAt sep cs with
      | nil => exact absurd hs (splitAt_ne_nil sep cs)
      | cons piece pieces =>
        rw [hs] at ih
        exact congrArg (Option.some ∘ (c :: ·)) (Option.some.inj ih)

end Text

namespace Manifest

/-! ## Coverage -/

def segments (path : Text) : List Text :=
  Text.splitAt '/' path

/-- A path is packaged: the names of an entry are its first names, or an entry with a wildcard is a
glob that it matches. Wildcards stay within one name. -/
def Packages (m : Manifest) (path : Text) : Prop :=
  (∃ e ∈ m.includes, segments e <+: segments path) ∨
    ∃ e ∈ m.includes, ('*' ∈ e ∨ '?' ∈ e ∨ '[' ∈ e) ∧
      ∃ g, Glob.parse false e = .ok g ∧ g.accepts path = true

theorem covers_iff {entry path : Text} :
    covers entry path = true ↔ segments entry <+: segments path := by
  unfold segments covers
  rw [Text.splitAt_isPrefix_iff]
  constructor
  · split
    · next h =>
      intro _
      rw [Text.after?_eq_some_iff, List.append_nil] at h
      exact .inl h
    · next c r h =>
      intro hc
      rw [Text.after?_eq_some_iff, beq_iff_eq.mp hc] at h
      exact .inr ⟨r, h⟩
    · exact fun h => absurd h Bool.false_ne_true
  · rintro (h | ⟨r, h⟩)
    · rw [(Text.after?_eq_some_iff entry path []).mpr (by rw [h, List.append_nil])]
    · rw [(Text.after?_eq_some_iff entry path ('/' :: r)).mpr h]
      rfl

theorem isWild_iff {entry : Text} :
    isWild entry = true ↔ '*' ∈ entry ∨ '?' ∈ entry ∨ '[' ∈ entry := by
  unfold isWild
  rw [List.any_eq_true]
  constructor
  · rintro ⟨c, hc, h⟩
    simp only [Bool.or_eq_true, beq_iff_eq] at h
    rcases h with (rfl | rfl) | rfl
    · exact .inl hc
    · exact .inr (.inl hc)
    · exact .inr (.inr hc)
  · rintro (h | h | h)
    · exact ⟨'*', h, rfl⟩
    · exact ⟨'?', h, rfl⟩
    · exact ⟨'[', h, rfl⟩

theorem globCovers_iff {entry path : Text} :
    globCovers entry path = true ↔ ('*' ∈ entry ∨ '?' ∈ entry ∨ '[' ∈ entry) ∧
      ∃ g, Glob.parse false entry = .ok g ∧ g.accepts path = true := by
  unfold globCovers
  rw [Bool.and_eq_true, isWild_iff]
  cases Glob.parse false entry with
  | ok g => simp
  | error fault => simp

theorem includesPath_iff {m : Manifest} {path : Text} :
    m.includesPath path = true ↔ m.Packages path := by
  unfold includesPath Packages
  rw [Bool.or_eq_true, List.any_eq_true, List.any_eq_true]
  simp only [covers_iff, globCovers_iff]

instance (m : Manifest) (path : Text) : Decidable (m.Packages path) :=
  decidable_of_iff _ includesPath_iff

theorem checkRequired_eq_nil_iff {m : Manifest} {name : Text} {paths : List Text} :
    m.checkRequired name paths = [] ↔ ∀ path ∈ paths, m.Packages path := by
  unfold checkRequired
  rw [List.map_eq_nil_iff, List.filter_eq_nil_iff]
  simp only [Bool.not_eq_true', Bool.not_eq_false, includesPath_iff]

def missing (name path : Text) : Diagnostic :=
  Rule.missingInclude.finding (missingMessage name path)

/-- The paths that are not packaged are reported, each as often and at the place where it is asked
for, and no others. An entry that is no glob stands for nothing but the path that it spells. -/
theorem checkRequired_eq_missing (m : Manifest) (name : Text) (paths : List Text) :
    m.checkRequired name paths = (paths.filter fun path => ¬m.Packages path).map (missing name) ∧
    ∀ entry fault path, Glob.parse false entry = .error fault →
      (checkRequired ⟨[entry]⟩ name [path] = [] ↔ segments entry <+: segments path) := by
  constructor
  · unfold checkRequired
    congr 2
    funext path
    rw [Bool.eq_iff_iff, Bool.not_eq_true', decide_eq_true_iff, ← includesPath_iff,
      Bool.not_eq_true]
  · intro entry fault path hfault
    rw [checkRequired_eq_nil_iff, List.forall_mem_singleton]
    constructor
    · rintro (⟨e, he, hnames⟩ | ⟨e, he, -, g, hg, -⟩)
      · rwa [List.mem_singleton.mp he] at hnames
      · rw [List.mem_singleton.mp he, hfault] at hg
        cases hg
    · exact fun hnames => .inl ⟨entry, List.mem_cons_self, hnames⟩

/-- A name with a bracket that no other one closes, and a folder whose name only begins like it. -/
def openBracket : Manifest := ⟨["a[b".toList, "*.xml".toList]⟩

theorem checkRequired_eq_missing_openBracket :
    openBracket.checkRequired "m".toList
        ["a[b/c".toList, "a[bc".toList, "x/y.xml".toList, "y.xml".toList, "a[bc".toList] =
      ["a[bc".toList, "x/y.xml".toList, "a[bc".toList].map (missing "m".toList) ∧
    checkRequired ⟨["a[b".toList]⟩ "m".toList ["a[b/c".toList] = [] := by
  obtain ⟨hmissing, hliteral⟩ := checkRequired_eq_missing openBracket "m".toList
    ["a[b/c".toList, "a[bc".toList, "x/y.xml".toList, "y.xml".toList, "a[bc".toList]
  have hfault : Glob.parse false "a[b".toList = .error .unclosedSet := rfl
  refine ⟨?_, (hliteral _ _ _ hfault).mpr (by decide)⟩
  rw [hmissing]
  exact congrArg _ (by decide +kernel)

/-! ## Lists of entries -/

theorem parseList_subset_append (v w : Text) : parseList v ⊆ parseList (v ++ ',' :: w) := by
  intro entry hentry
  obtain ⟨hne, piece, hpiece, hnormal⟩ := mem_parseList.mp hentry
  rw [mem_parseList, Text.splitAt_append]
  exact ⟨hne, piece, List.mem_append_left _ hpiece, hnormal⟩

theorem Packages.mono {m m' : Manifest} (h : m.includes ⊆ m'.includes) {path : Text}
    (hpath : m.Packages path) : m'.Packages path := by
  rcases hpath with ⟨e, he, hnames⟩ | ⟨e, he, hglob⟩
  · exact .inl ⟨e, h he, hnames⟩
  · exact .inr ⟨e, h he, hglob⟩

/-! ## Advice -/

def Flags (m : Manifest) (name path : Text) : Prop :=
  m.checkRequired name [path] ≠ []

instance (m : Manifest) (name path : Text) : Decidable (m.Flags name path) :=
  inferInstanceAs (Decidable (_ ≠ _))

theorem flags_iff {m : Manifest} {name path : Text} : m.Flags name path ↔ ¬m.Packages path := by
  unfold Flags
  rw [ne_eq, checkRequired_eq_nil_iff, List.forall_mem_singleton]

/-- The entries that the reports about paths suggest, as a list with commas. -/
def advice (m : Manifest) (name : Text) (paths : List Text) : Text :=
  Text.joinWith [','] ((paths.filter fun path => m.Flags name path).map suggestedEntry)

/-- A name that stands for itself in a list of entries: it is neither empty nor a dot, and there is
no comma in it and no white space around it. -/
structure IsPlain (top : Text) : Prop where
  ne_nil : top ≠ []
  ne_here : top ≠ ['.']
  no_comma : ',' ∉ top
  first_not_white : ∀ c ∈ top.head?, Text.isWhite c = false
  last_not_white : ∀ c ∈ top.getLast?, Text.isWhite c = false

instance (top : Text) : Decidable (IsPlain top) :=
  -- Only the character at an end is looked at, not all that there are.
  haveI : ∀ end? : Option Char, Decidable (∀ c ∈ end?, Text.isWhite c = false) :=
    Option.decidableForallMem
  decidable_of_iff
    (top ≠ [] ∧ top ≠ ['.'] ∧ ',' ∉ top ∧ (∀ c ∈ top.head?, Text.isWhite c = false) ∧
      ∀ c ∈ top.getLast?, Text.isWhite c = false)
    ⟨fun ⟨ne, here, comma, first, last⟩ => ⟨ne, here, comma, first, last⟩,
      fun h => ⟨h.ne_nil, h.ne_here, h.no_comma, h.first_not_white, h.last_not_white⟩⟩

theorem IsPlain.isNormal {top : Text} (h : IsPlain top) (hslash : '/' ∉ top) : IsNormal top where
  first_not_white := h.first_not_white
  last_not_white := h.last_not_white
  not_here hhere := hslash (hhere.subset (by decide))
  last_not_slash c hc heq := hslash (heq ▸ List.mem_of_getLast? hc)

theorem IsPlain.normalEntry_append {top ending : Text} (h : IsPlain top) (hslash : '/' ∉ top)
    (hending : ending = [] ∨ ending = ['/']) : normalEntry (top ++ ending) = top := by
  have hspells : ∀ k, Spells (top ++ slashes k) top := fun k =>
    ⟨[], 0, k, [], rfl, rfl, (List.append_nil _).symm⟩
  rcases hending with rfl | rfl
  · exact (hspells 0).normalEntry_eq (h.isNormal hslash) h.ne_here
  · exact (hspells 1).normalEntry_eq (h.isNormal hslash) h.ne_here

/-- What is suggested for a path reads as its topmost name, which packages the path. -/
theorem suggestedEntry_spec {path : Text} (h : ∀ top ∈ (segments path).head?, IsPlain top) :
    ',' ∉ suggestedEntry path ∧ normalEntry (suggestedEntry path) ≠ [] ∧
      segments (normalEntry (suggestedEntry path)) <+: segments path := by
  have hhead : (segments path).head? = some (path.takeWhile (· != '/')) :=
    Text.head?_splitAt '/' path
  have htop := h _ hhead
  have hslash : '/' ∉ path.takeWhile (· != '/') :=
    fun hmem => absurd (List.mem_takeWhile_imp hmem) (by decide)
  unfold suggestedEntry
  by_cases hpath : path.contains '/' = true
  · -- A folder is suggested, and the slash behind it is no part of its name.
    rw [if_pos hpath, htop.normalEntry_append hslash (.inr rfl), List.mem_append, not_or]
    refine ⟨⟨htop.no_comma, by decide⟩, htop.ne_nil, ?_⟩
    obtain ⟨more, hmore⟩ := List.head?_eq_some_iff.mp hhead
    rw [hmore, segments, Text.splitAt_of_not_mem hslash]
    exact ⟨more, rfl⟩
  · -- Without a slash the path is its own topmost name.
    have hmem : '/' ∉ path := fun hmem => hpath (List.contains_iff_mem.mpr hmem)
    have hself : path.takeWhile (· != '/') = path := by
      rw [segments, Text.splitAt_of_not_mem hmem] at hhead
      exact (Option.some.inj hhead).symm
    rw [hself] at htop
    have hnormal := htop.normalEntry_append hmem (.inl rfl)
    rw [List.append_nil] at hnormal
    rw [if_neg hpath, hnormal]
    exact ⟨htop.no_comma, htop.ne_nil, List.prefix_rfl⟩

theorem mem_splitAt_advice {m : Manifest} {name : Text} {paths : List Text}
    (hplain : ∀ path ∈ paths, ∀ top ∈ (segments path).head?, IsPlain top) {path : Text}
    (hpath : path ∈ paths) (hflags : m.Flags name path) :
    suggestedEntry path ∈ Text.splitAt ',' (m.advice name paths) := by
  have hmem : suggestedEntry path ∈
      (paths.filter fun path => m.Flags name path).map suggestedEntry :=
    List.mem_map_of_mem (List.mem_filter.mpr ⟨hpath, decide_eq_true hflags⟩)
  unfold advice
  rw [Text.splitAt_joinWith ?_ (List.ne_nil_of_mem hmem)]
  · exact hmem
  · intro entry hentry
    obtain ⟨p, hp, rfl⟩ := List.mem_map.mp hentry
    exact (suggestedEntry_spec (hplain p (List.mem_filter.mp hp).1)).1

/-- Following the advice of all reports leaves nothing to report, and no report comes up because
something is added to the list. -/
theorem advice_suffices (name : Text) :
    (∀ (v : Text) (paths : List Text),
      (∀ path ∈ paths, ∀ top ∈ (segments path).head?, IsPlain top) →
      checkRequired ⟨parseList (v ++ ',' :: advice ⟨parseList v⟩ name paths)⟩ name paths = []) ∧
    ∀ v w path, Flags ⟨parseList (v ++ ',' :: w)⟩ name path → Flags ⟨parseList v⟩ name path := by
  have hmono : ∀ v w path, Packages ⟨parseList v⟩ path →
      Packages ⟨parseList (v ++ ',' :: w)⟩ path :=
    fun v w path hpath => hpath.mono (parseList_subset_append v w)
  constructor
  · intro v paths hplain
    rw [checkRequired_eq_nil_iff]
    intro path hpath
    -- A path that is packaged stays so; for any other one there is an entry in the advice.
    by_cases hpackaged : Packages ⟨parseList v⟩ path
    · exact hmono v _ path hpackaged
    · obtain ⟨-, hne, hcovers⟩ := suggestedEntry_spec (hplain path hpath)
      refine .inl ⟨_, mem_parseList.mpr ⟨hne, suggestedEntry path, ?_, rfl⟩, hcovers⟩
      rw [Text.splitAt_append]
      exact List.mem_append_right _
        (mem_splitAt_advice hplain hpath (flags_iff.mpr hpackaged))
  · intro v w path hflags
    rw [flags_iff] at hflags ⊢
    exact fun hpath => hflags (hmono v w path hpath)

theorem advice_suffices_wildPaths :
    let v := "META-INF/,*.xml".toList
    let paths := ["META-INF/m".toList, "a[b/*/c".toList, "plugin.xml".toList, ".x".toList,
      "ESH-INF/".toList]
    advice ⟨parseList v⟩ "m".toList paths = "a[b/,.x,ESH-INF/".toList ∧
      checkRequired ⟨parseList "META-INF/,*.xml,a[b/,.x,ESH-INF/".toList⟩ "m".toList paths = [] ∧
      ¬Flags ⟨parseList "META-INF/,*.xml,[".toList⟩ "m".toList "x.xml".toList := by
  intro v paths
  have hadvice : advice ⟨parseList v⟩ "m".toList paths = "a[b/,.x,ESH-INF/".toList := by
    decide +kernel
  have hplain : ∀ path ∈ paths, ∀ top ∈ (segments path).head?, IsPlain top := by
    decide +kernel
  obtain ⟨hnone, hmono⟩ := advice_suffices "m".toList
  have hv := hnone v paths hplain
  rw [hadvice] at hv
  refine ⟨hadvice, hv, fun hflags => ?_⟩
  exact absurd (hmono v "[".toList _ hflags) (by decide +kernel)

end Manifest

end DocLint
