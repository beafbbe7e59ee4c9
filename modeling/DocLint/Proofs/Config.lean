import DocLint.Error
import DocLint.Proofs.Json
import DocLint.Proofs.Schema

/-!
# Configurations and their JSON form

The schema and the reader of configurations describe one format twice. They agree: every value that
the schema allows is read, member by member, and what is missing has its default. What was read is
sound, and a sound configuration is written as a value that the schema allows and that is read as the
same configuration.
-/

namespace DocLint

theorem eq_ok_of_toOption {ε α : Type} {x : Except ε α} {a : α} (h : x.toOption = some a) :
    x = .ok a := by
  cases x with
  | error e => cases h
  | ok b =>
    cases h
    rfl

/-- A result that is evaluated, so that what holds of it may be decided. -/
theorem forall_ok_of_toOption {ε α : Type} {x : Except ε α} {P : α → Prop}
    (h : ∀ a ∈ x.toOption, P a) : ∀ a, x = .ok a → P a := by
  intro a ha
  exact h a (by rw [ha]; rfl)

theorem toOption_eq_none_iff {ε α : Type} {x : Except ε α} :
    x.toOption = none ↔ ∃ e, x = .error e := by
  cases x with
  | error e => exact iff_of_true rfl ⟨e, rfl⟩
  | ok a => exact iff_of_false nofun nofun

theorem toOption_map {ε α β : Type} (f : α → β) (x : Except ε α) :
    (x.map f).toOption = x.toOption.map f := by
  cases x <;> rfl

/-! ## Members with defaults -/

/-- The members in `defaults`, each with the value that it has in `j`, if it has one there. -/
def Json.override (defaults : List (Text × Json)) (j : Json) : List (Text × Json) :=
  defaults.map fun (key, value) => (key, (j.member? key).getD value)

theorem Json.override_nil (defaults : List (Text × Json)) : override defaults (.obj []) = defaults := by
  simp [override, member?]

/-- The members that manifest settings are written as. -/
def ManifestConfig.members (m : ManifestConfig) : List (Text × Json) :=
  [("enabled".toList, .bool m.enabled), ("fileName".toList, .str m.fileName),
    ("requiredIncludes".toList, Config.ofTexts m.requiredIncludes)]

/-- An option is on, off or the name of a severity. -/
inductive RuleOption.IsKnown : RuleOption → Prop
  | switch (on : Bool) : IsKnown (.switch on)
  | severity (s : Severity) : IsKnown (.level s.name)
  | off : IsKnown (.level "off".toList)

namespace Config

def optionMembers (os : List (Text × RuleOption)) : List (Text × Json) :=
  os.map fun (key, o) => (key, ofOption o)

/-- The members that a configuration is written as, but for the manifest settings. -/
def members (c : Config) : List (Text × Json) :=
  [("docFileName".toList, .str c.docFileName), ("docFolderName".toList, .str c.docFolderName),
    ("headerExceptions".toList, ofTexts c.headerExceptions),
    ("options".toList, .obj (optionMembers c.options)),
    ("include".toList, ofTexts c.includes), ("exclude".toList, ofTexts c.excludes)]

/-- What holds of every configuration that is read off JSON. -/
structure IsSound (c : Config) : Prop where
  docFileName : c.docFileName ≠ []
  docFolderName : c.docFolderName ≠ []
  manifestName : c.manifest.fileName ≠ []
  options : ∀ o ∈ c.options, o.2.IsKnown
  baseDir : c.baseDir = none

/-! ## Reading what a schema allows -/

/-- Every value that a schema allows is read as something that is written like it, and that has the
property `P`. -/
def Reads {α : Type} (s : Schema) (read : Json → Option α) (write : α → Json) (P : α → Prop) :
    Prop :=
  ∀ v, s.allows v = true → ∃ a, read v = some a ∧ v = write a ∧ P a

theorem exists_mapM {α β : Type} {f : α → Option β} {g : β → α} {P : β → Prop} {xs : List α}
    (h : ∀ x ∈ xs, ∃ y, f x = some y ∧ x = g y ∧ P y) :
    ∃ ys, xs.mapM f = some ys ∧ xs = ys.map g ∧ ∀ y ∈ ys, P y := by
  induction xs with
  | nil => exact ⟨[], rfl, rfl, by simp⟩
  | cons x more ih =>
    obtain ⟨hx, hmore⟩ := List.forall_mem_cons.mp h
    obtain ⟨y, hy, hxy, hP⟩ := hx
    obtain ⟨ys, hys, hmap, hall⟩ := ih hmore
    refine ⟨y :: ys, ?_, ?_, List.forall_mem_cons.mpr ⟨hP, hall⟩⟩
    · rw [List.mapM_cons, hy, hys]
      rfl
    · rw [List.map_cons, ← hxy, ← hmap]

theorem reads_text (nonEmpty : Bool) :
    Reads (.string nonEmpty) readText .str fun t => nonEmpty = true → t ≠ [] := by
  intro v h
  obtain ⟨t, rfl, ht⟩ := Schema.allows_string_iff.mp h
  exact ⟨t, rfl, rfl, ht⟩

theorem reads_bool : Reads .boolean readBool .bool fun _ => True := by
  intro v h
  obtain ⟨b, rfl⟩ := Schema.allows_boolean_iff.mp h
  exact ⟨b, rfl, rfl, trivial⟩

theorem reads_texts : Reads stringsSchema readTexts ofTexts fun _ => True := by
  intro v h
  obtain ⟨xs, rfl, hxs⟩ := Schema.allows_array_iff.mp h
  obtain ⟨ts, hts, rfl, -⟩ := exists_mapM fun x hx => reads_text false x (hxs x hx)
  exact ⟨ts, hts, rfl, trivial⟩

theorem isKnown_of_mem_optionWords {t : Text} (h : t ∈ optionWords) :
    (RuleOption.level t).IsKnown := by
  simp only [optionWords, List.mem_cons, List.not_mem_nil, or_false] at h
  rcases h with rfl | rfl | rfl | rfl
  · exact .severity .error
  · exact .severity .warning
  · exact .severity .info
  · exact .off

theorem reads_option : Reads (.switch optionWords) readOption ofOption RuleOption.IsKnown := by
  intro v h
  rcases Schema.allows_switch_iff.mp h with ⟨b, rfl⟩ | ⟨t, ht, rfl⟩
  · exact ⟨.switch b, rfl, rfl, .switch b⟩
  · exact ⟨.level t, rfl, rfl, isKnown_of_mem_optionWords ht⟩

theorem reads_options :
    Reads (.table (.switch optionWords)) readOptions (fun os => .obj (optionMembers os))
      fun os => ∀ o ∈ os, o.2.IsKnown := by
  intro v h
  obtain ⟨ms, rfl, hms⟩ := Schema.allows_table_iff.mp h
  have hread : ∀ m ∈ ms, ∃ o : Text × RuleOption, (readOption m.2).map (m.1, ·) = some o ∧
      m = (o.1, ofOption o.2) ∧ o.2.IsKnown := by
    intro m hm
    obtain ⟨o, ho, hmo, hknown⟩ := reads_option m.2 (hms m hm)
    exact ⟨(m.1, o), by rw [ho]; rfl, by rw [← hmo], hknown⟩
  obtain ⟨os, hos, hmap, hknown⟩ := exists_mapM hread
  exact ⟨os, hos, congrArg Json.obj hmap, hknown⟩

/-- A member of a record is read, or has its default if it is missing. -/
theorem exists_field? {α : Type} {s : Schema} {read : Json → Option α} {write : α → Json}
    {P : α → Prop} (hreads : Reads s read write P) {fields : List (Text × Schema)} {j : Json}
    (hj : (Schema.record fields).allows j = true) (key : String)
    (hs : fields.lookup key.toList = some s) (default : α) (hdefault : P default) :
    ∃ a, field? j key default read = some a ∧
      write a = (j.member? key.toList).getD (write default) ∧ P a := by
  unfold field?
  cases hv : j.member? key.toList with
  | none => exact ⟨default, rfl, rfl, hdefault⟩
  | some v =>
    obtain ⟨a, ha, rfl, hP⟩ := hreads v (Schema.allows_of_member? hj hv hs)
    exact ⟨a, ha, rfl, hP⟩

theorem readManifest_of_fields {ms : List (Text × Json)} {m : ManifestConfig}
    (henabled : field? (.obj ms) "enabled" ({} : ManifestConfig).enabled readBool = some m.enabled)
    (hfileName : field? (.obj ms) "fileName" ({} : ManifestConfig).fileName readText =
      some m.fileName)
    (hrequired : field? (.obj ms) "requiredIncludes" ({} : ManifestConfig).requiredIncludes
      readTexts = some m.requiredIncludes) : readManifest (.obj ms) = some m := by
  simp only [readManifest, Option.bind_eq_bind]
  rw [henabled, Option.bind_some, hfileName, Option.bind_some, hrequired]
  rfl

theorem ofJson?_of_fields {ms : List (Text × Json)} {c : Config} (hbase : c.baseDir = none)
    (hdocFileName : field? (.obj ms) "docFileName" ({} : Config).docFileName readText =
      some c.docFileName)
    (hdocFolderName : field? (.obj ms) "docFolderName" ({} : Config).docFolderName readText =
      some c.docFolderName)
    (hexceptions : field? (.obj ms) "headerExceptions" ({} : Config).headerExceptions readTexts =
      some c.headerExceptions)
    (hmanifest : field? (.obj ms) "manifest" ({} : Config).manifest readManifest = some c.manifest)
    (hoptions : field? (.obj ms) "options" ({} : Config).options readOptions = some c.options)
    (hincludes : field? (.obj ms) "include" ({} : Config).includes readTexts = some c.includes)
    (hexcludes : field? (.obj ms) "exclude" ({} : Config).excludes readTexts = some c.excludes) :
    ofJson? (.obj ms) = some c := by
  simp only [ofJson?, Option.bind_eq_bind]
  rw [hdocFileName, Option.bind_some, hdocFolderName, Option.bind_some, hexceptions,
    Option.bind_some, hmanifest, Option.bind_some, hoptions, Option.bind_some, hincludes,
    Option.bind_some, hexcludes, Option.bind_some, ← hbase]
  rfl

/-- Manifest settings need not be written in full. -/
theorem exists_readManifest {v : Json} (h : manifestSchema.allows v = true) :
    ∃ m, readManifest v = some m ∧ m.members = v.override ({} : ManifestConfig).members ∧
      m.fileName ≠ [] := by
  obtain ⟨ms, rfl, -⟩ := Schema.allows_record_iff.mp h
  let default : ManifestConfig := {}
  obtain ⟨enabled, henabled, hwritten₁, -⟩ :=
    exists_field? reads_bool h "enabled" rfl default.enabled trivial
  obtain ⟨fileName, hfileName, hwritten₂, hnonEmpty⟩ :=
    exists_field? (reads_text true) h "fileName" rfl default.fileName (by decide)
  obtain ⟨required, hrequired, hwritten₃, -⟩ :=
    exists_field? reads_texts h "requiredIncludes" rfl default.requiredIncludes trivial
  refine ⟨⟨enabled, fileName, required⟩, ?_, ?_, hnonEmpty rfl⟩
  · exact readManifest_of_fields henabled hfileName hrequired
  · simp only [ManifestConfig.members, Json.override, List.map_cons, List.map_nil]
    rw [hwritten₁, hwritten₂, hwritten₃]

theorem exists_manifest {j : Json} (h : schema.allows j = true) :
    ∃ m, field? j "manifest" ({} : Config).manifest readManifest = some m ∧
      m.members = ((j.member? "manifest".toList).getD (.obj [])).override
        ({} : ManifestConfig).members ∧ m.fileName ≠ [] := by
  unfold field?
  cases hv : j.member? "manifest".toList with
  | none => exact ⟨{}, rfl, (Json.override_nil _).symm, by decide⟩
  | some v => exact exists_readManifest (Schema.allows_of_member? h hv rfl)

/-- A value that the schema allows is read, member by member. -/
theorem exists_ofJson? {j : Json} (h : schema.allows j = true) :
    ∃ c, ofJson? j = some c ∧ c.members = j.override ({} : Config).members ∧
      c.manifest.members = ((j.member? "manifest".toList).getD (.obj [])).override
        ({} : ManifestConfig).members ∧ c.IsSound := by
  obtain ⟨ms, rfl, -⟩ := Schema.allows_record_iff.mp h
  let default : Config := {}
  obtain ⟨docFileName, hdocFileName, hwritten₁, hnonEmpty₁⟩ :=
    exists_field? (reads_text true) h "docFileName" rfl default.docFileName (by decide)
  obtain ⟨docFolderName, hdocFolderName, hwritten₂, hnonEmpty₂⟩ :=
    exists_field? (reads_text true) h "docFolderName" rfl default.docFolderName (by decide)
  obtain ⟨exceptions, hexceptions, hwritten₃, -⟩ :=
    exists_field? reads_texts h "headerExceptions" rfl default.headerExceptions trivial
  obtain ⟨options, hoptions, hwritten₄, hknown⟩ :=
    exists_field? reads_options h "options" rfl default.options (by simp [default])
  obtain ⟨includes, hincludes, hwritten₅, -⟩ :=
    exists_field? reads_texts h "include" rfl default.includes trivial
  obtain ⟨excludes, hexcludes, hwritten₆, -⟩ :=
    exists_field? reads_texts h "exclude" rfl default.excludes trivial
  obtain ⟨manifest, hmanifest, hmembers, hname⟩ := exists_manifest h
  refine ⟨⟨docFileName, docFolderName, exceptions, manifest, options, includes, excludes, none⟩,
    ?_, ?_, hmembers, ⟨hnonEmpty₁ rfl, hnonEmpty₂ rfl, hname, hknown, rfl⟩⟩
  · exact ofJson?_of_fields rfl hdocFileName hdocFolderName hexceptions hmanifest hoptions
      hincludes hexcludes
  · simp only [members, Json.override, List.map_cons, List.map_nil]
    rw [hwritten₁, hwritten₂, hwritten₃, hwritten₄, hwritten₅, hwritten₆]

/-- The schema and the reader agree. Every value that the schema allows is read; each member is taken
over as it is written, also inside of manifest settings, and what is missing has its default; no
name is empty, and every option is on, off or the name of a severity. So no text is refused for
being allowed by the schema and yet no configuration. -/
theorem allowed_is_read :
    (∀ j, schema.allows j = true → ∃ c, ofJson? j = some c ∧
      c.members = j.override ({} : Config).members ∧
      c.manifest.members = ((j.member? "manifest".toList).getD (.obj [])).override
        ({} : ManifestConfig).members ∧
      c.IsSound) ∧
    ∀ t, parse t ≠ .error .mismatch := by
  refine ⟨fun j h => exists_ofJson? h, ?_⟩
  intro t h
  unfold parse at h
  split at h
  · cases h
  · dsimp only at h
    split at h
    · cases h
    · rename_i hallows
      obtain ⟨c, hc, -⟩ := exists_ofJson? (Schema.allows_iff.mpr hallows)
      simp only [hc] at h
      cases h

/-- Settings that name the manifest only, and options of both kinds. -/
def partialJson : Json :=
  .obj [("$schema".toList, .str []), ("manifest".toList, .obj [("fileName".toList, .str ['m'])]),
    ("options".toList, .obj [("a".toList, .bool false), ("b".toList, .str "off".toList)])]

theorem allowed_is_read_partialJson :
    schema.allows partialJson = true ∧ ∃ c, ofJson? partialJson = some c ∧ c.IsSound ∧
      c.manifest = { fileName := ['m'] } ∧
      c.options = [("a".toList, .switch false), ("b".toList, .level "off".toList)] := by
  have h : schema.allows partialJson = true := by decide
  obtain ⟨c, hc, -, -, hsound⟩ := allowed_is_read.1 partialJson h
  refine ⟨h, c, hc, hsound, ?_⟩
  cases hc
  decide

/-! ## Writing a configuration -/

theorem mapM_map_of_inverse {α β : Type} {f : α → Option β} {g : β → α}
    (h : ∀ y, f (g y) = some y) (ys : List β) : (ys.map g).mapM f = some ys := by
  induction ys with
  | nil => rfl
  | cons y more ih =>
    rw [List.map_cons, List.mapM_cons, h, ih]
    rfl

theorem readTexts_ofTexts (ts : List Text) : readTexts (ofTexts ts) = some ts := by
  apply mapM_map_of_inverse
  intro t
  rfl

theorem readOptions_optionMembers (os : List (Text × RuleOption)) :
    readOptions (.obj (optionMembers os)) = some os := by
  apply mapM_map_of_inverse
  rintro ⟨key, o⟩
  cases o <;> rfl

theorem allows_ofTexts (ts : List Text) : stringsSchema.allows (ofTexts ts) = true := by
  refine Schema.allows_array_iff.mpr ⟨_, rfl, ?_⟩
  intro x hx
  obtain ⟨t, -, rfl⟩ := List.mem_map.mp hx
  exact Schema.allows_string_iff.mpr ⟨t, rfl, by simp⟩

theorem allows_ofOption {o : RuleOption} (h : o.IsKnown) :
    (Schema.switch optionWords).allows (ofOption o) = true := by
  rw [Schema.allows_switch_iff]
  cases h with
  | switch on => exact .inl ⟨on, rfl⟩
  | severity s => exact .inr ⟨s.name, by cases s <;> decide, rfl⟩
  | off => exact .inr ⟨_, by decide, rfl⟩

/-- The members that a configuration is written as, in the order of their keys. -/
theorem toJson_eq {c : Config} (h : Json.SortedMembers (optionMembers c.options)) :
    c.toJson = .obj
      [("docFileName".toList, .str c.docFileName), ("docFolderName".toList, .str c.docFolderName),
        ("exclude".toList, ofTexts c.excludes),
        ("headerExceptions".toList, ofTexts c.headerExceptions),
        ("include".toList, ofTexts c.includes), ("manifest".toList, .obj c.manifest.members),
        ("options".toList, .obj (optionMembers c.options))] := by
  have hoptions : Json.ofMembers (c.options.map fun (key, o) => (key, ofOption o)) =
      .obj (optionMembers c.options) := Json.ofMembers_of_sorted h
  unfold toJson
  rw [hoptions]
  rfl

theorem allows_members_manifest {m : ManifestConfig} (h : m.fileName ≠ []) :
    manifestSchema.allows (.obj m.members) = true := by
  refine Schema.allows_record_iff.mpr ⟨_, rfl, ?_⟩
  simp only [ManifestConfig.members, List.forall_mem_cons]
  refine ⟨⟨_, rfl, ?_⟩, ⟨_, rfl, ?_⟩, ⟨_, rfl, ?_⟩, by simp⟩
  · exact Schema.allows_boolean_iff.mpr ⟨_, rfl⟩
  · exact Schema.allows_string_iff.mpr ⟨_, rfl, fun _ => h⟩
  · exact allows_ofTexts _

theorem allows_toJson {c : Config} (hsound : c.IsSound)
    (hsorted : Json.SortedMembers (optionMembers c.options)) : schema.allows c.toJson = true := by
  rw [toJson_eq hsorted]
  refine Schema.allows_record_iff.mpr ⟨_, rfl, ?_⟩
  simp only [List.forall_mem_cons]
  refine ⟨⟨_, rfl, ?_⟩, ⟨_, rfl, ?_⟩, ⟨_, rfl, ?_⟩, ⟨_, rfl, ?_⟩, ⟨_, rfl, ?_⟩, ⟨_, rfl, ?_⟩,
    ⟨_, rfl, ?_⟩, by simp⟩
  · exact Schema.allows_string_iff.mpr ⟨_, rfl, fun _ => hsound.docFileName⟩
  · exact Schema.allows_string_iff.mpr ⟨_, rfl, fun _ => hsound.docFolderName⟩
  · exact allows_ofTexts _
  · exact allows_ofTexts _
  · exact allows_ofTexts _
  · exact allows_members_manifest hsound.manifestName
  · refine Schema.allows_table_iff.mpr ⟨_, rfl, ?_⟩
    intro m hm
    obtain ⟨o, ho, rfl⟩ := List.mem_map.mp hm
    exact allows_ofOption (hsound.options o ho)

theorem readManifest_members (m : ManifestConfig) : readManifest (.obj m.members) = some m := by
  apply readManifest_of_fields
  · rfl
  · rfl
  · exact readTexts_ofTexts m.requiredIncludes

theorem ofJson?_toJson {c : Config} (hbase : c.baseDir = none)
    (hsorted : Json.SortedMembers (optionMembers c.options)) : ofJson? c.toJson = some c := by
  rw [toJson_eq hsorted]
  -- The keys are known, so looking a member up is a computation.
  apply ofJson?_of_fields hbase
  · rfl
  · rfl
  · exact readTexts_ofTexts c.headerExceptions
  · exact readManifest_members c.manifest
  · exact readOptions_optionMembers c.options
  · exact readTexts_ofTexts c.includes
  · exact readTexts_ofTexts c.excludes

/-- The value of a configuration that was read has sorted objects. -/
theorem exists_json_of_parse {t : Text} {c : Config} (h : parse t = .ok c) :
    ∃ j, j.IsSorted ∧ schema.allows j = true ∧ ofJson? j = some c := by
  unfold parse at h
  split at h
  · cases h
  · rename_i j hj
    dsimp only at h
    split at h
    · cases h
    · rename_i hallows
      split at h
      · rename_i c' hc
        cases h
        -- A text without a value stands for an empty object.
        refine ⟨j.getD (.obj []), ?_, Schema.allows_iff.mpr hallows, hc⟩
        cases j with
        | none => exact .obj .nil (by simp)
        | some j => exact Json.isSorted_parse hj
      · cases h

theorem sortedMembers_options {j : Json} {c : Config} (hj : j.IsSorted)
    (hc : c.members = j.override ({} : Config).members) :
    Json.SortedMembers (optionMembers c.options) := by
  have hoptions : Json.obj (optionMembers c.options) =
      (j.member? "options".toList).getD (.obj []) := by
    simp only [members, Json.override, List.map_cons, List.cons.injEq, Prod.mk.injEq] at hc
    exact hc.2.2.2.1.2
  cases hv : j.member? "options".toList with
  | none =>
    rw [hv, Option.getD_none, Json.obj.injEq] at hoptions
    rw [hoptions]
    exact .nil
  | some v =>
    have hvalue := hj.member? hv
    rw [hv, Option.getD_some] at hoptions
    rw [← hoptions] at hvalue
    cases hvalue with
    | obj hkeys _ => exact hkeys

/-- Reading undoes writing. Every configuration that was read off a text is written as a value that
the schema allows and that is read as the same configuration. -/
theorem written_is_read {t : Text} {c : Config} (h : parse t = .ok c) :
    schema.allows c.toJson = true ∧ ofJson? c.toJson = some c := by
  obtain ⟨j, hsorted, hallows, hc⟩ := exists_json_of_parse h
  obtain ⟨c', hc', hmembers, -, hsound⟩ := exists_ofJson? hallows
  rw [hc] at hc'
  cases hc'
  have hoptions := sortedMembers_options hsorted hmembers
  exact ⟨allows_toJson hsound hoptions, ofJson?_toJson hsound.baseDir hoptions⟩

/-- Options out of order, one of them twice, beside an escaped name. -/
def jumbledText : Text :=
  ("\x7boptions: \x7b'b': 'off', \"a\": true, b: \"info\"\x7d, // names\n" ++
    "\"docFileName\": \"\\u0041.md\"\x7d").toList

def jumbledConfig : Config :=
  { docFileName := "A.md".toList,
    options := [("a".toList, .switch true), ("b".toList, .level "info".toList)] }

theorem written_is_read_jumbledText :
    parse jumbledText = .ok jumbledConfig ∧ schema.allows jumbledConfig.toJson = true ∧
      ofJson? jumbledConfig.toJson = some jumbledConfig := by
  have h : parse jumbledText = .ok jumbledConfig := eq_ok_of_toOption (by decide +kernel)
  exact ⟨h, written_is_read h⟩

end Config

end DocLint
