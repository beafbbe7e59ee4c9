import DocLint.Config.Schema

/-!
# What schemas allow

The search for the first violation finds none if and only if every part of a value is allowed by the
schema of its place. There is one lemma for each kind of schema, so nothing else has to know how the
search goes.
-/

namespace DocLint.Schema

/-! ## The search -/

theorem firstMember_eq_none_iff {check : Text → Json → Option Violation}
    {ms : List (Text × Json)} :
    firstMember check ms = none ↔ ∀ m ∈ ms, check m.1 m.2 = none := by
  induction ms with
  | nil => simp [firstMember]
  | cons m more ih =>
    rw [firstMember, List.forall_mem_cons, ← ih]
    cases check m.1 m.2 <;> simp

theorem firstElement_eq_none_iff {check : Json → Option Violation} {number : Nat}
    {xs : List Json} : firstElement check number xs = none ↔ ∀ x ∈ xs, check x = none := by
  induction xs generalizing number with
  | nil => simp [firstElement]
  | cons x more ih =>
    rw [firstElement, List.forall_mem_cons, ← @ih (number + 1)]
    cases check x <;> simp

theorem fieldViolation?_eq_none_iff {fields : List (Text × Schema)} {key : Text} {value : Json} :
    fieldViolation? fields key value = none ↔
      ∃ s, fields.lookup key = some s ∧ s.violation? value = none := by
  induction fields with
  | nil => simp [fieldViolation?]
  | cons field more ih =>
    obtain ⟨name, s⟩ := field
    rw [fieldViolation?, List.lookup_cons]
    by_cases hname : name = key
    · simp [hname]
    · rw [if_neg (by simpa using hname), ih, beq_false_of_ne (Ne.symm hname)]

/-! ## The kinds of schemas -/

attribute [local simp] violation?

theorem allows_iff {s : Schema} {j : Json} : s.allows j = true ↔ s.violation? j = none :=
  Option.isNone_iff_eq_none

theorem allows_string_iff {nonEmpty : Bool} {j : Json} :
    (string nonEmpty).allows j = true ↔ ∃ t, j = .str t ∧ (nonEmpty = true → t ≠ []) := by
  rw [allows_iff]
  cases j <;> simp

theorem allows_boolean_iff {j : Json} : boolean.allows j = true ↔ ∃ b, j = .bool b := by
  rw [allows_iff]
  cases j <;> simp

theorem allows_array_iff {items : Schema} {j : Json} :
    (array items).allows j = true ↔ ∃ xs, j = .arr xs ∧ ∀ x ∈ xs, items.allows x = true := by
  simp only [allows_iff]
  cases j <;> simp [firstElement_eq_none_iff]

theorem allows_record_iff {fields : List (Text × Schema)} {j : Json} :
    (record fields).allows j = true ↔
      ∃ ms, j = .obj ms ∧ ∀ m ∈ ms, ∃ s, fields.lookup m.1 = some s ∧ s.allows m.2 = true := by
  simp only [allows_iff]
  cases j <;> simp [firstMember_eq_none_iff, fieldViolation?_eq_none_iff]

theorem allows_table_iff {values : Schema} {j : Json} :
    (table values).allows j = true ↔ ∃ ms, j = .obj ms ∧ ∀ m ∈ ms, values.allows m.2 = true := by
  simp only [allows_iff]
  cases j <;> simp [firstMember_eq_none_iff]

theorem allows_switch_iff {words : List Text} {j : Json} :
    (switch words).allows j = true ↔ (∃ b, j = .bool b) ∨ ∃ t ∈ words, j = .str t := by
  rw [allows_iff]
  cases j <;> simp

/-- A member of an allowed record is allowed by the schema of its key. -/
theorem allows_of_member? {fields : List (Text × Schema)} {j v : Json} {key : Text} {s : Schema}
    (h : (record fields).allows j = true) (hv : j.member? key = some v)
    (hs : fields.lookup key = some s) : s.allows v = true := by
  obtain ⟨ms, rfl, hms⟩ := allows_record_iff.mp h
  obtain ⟨l, l', rfl, -⟩ := List.lookup_eq_some_iff.mp hv
  obtain ⟨s', hs', hallows⟩ := hms (key, v) (List.mem_append_right l List.mem_cons_self)
  rw [hs] at hs'
  cases hs'
  exact hallows

end DocLint.Schema
