import DocLint.Config.Basic
import DocLint.Proofs.Order

/-!
# Reports do not depend on the order of findings

A report sorts findings by line, rule and message and looks at nothing else, so findings that differ
in their severity alone keep the order they were found in. Every finding starts as an error, and the
options then give all findings of a rule the same severity. Hence two findings of a report that
compare equal are equal, and the order in which they were found is lost.
-/

namespace DocLint

namespace Config

def isOff (c : Config) (rule : Text) : Bool :=
  (c.options.lookup rule).any fun o => !o.isEnabled

/-- A finding with the severity that the option of its rule names, if it names one. -/
def regrade (c : Config) (d : Diagnostic) : Diagnostic :=
  { d with severity := ((c.options.lookup d.rule).bind RuleOption.severity?).getD d.severity }

theorem applyOption_eq (c : Config) (d : Diagnostic) :
    c.applyOption d = if c.isOff d.rule then none else some (c.regrade d) := by
  unfold applyOption isOff regrade
  cases c.options.lookup d.rule with
  | none => rfl
  | some o =>
    by_cases ho : o.isEnabled = true
    · simp only [ho, if_true, Option.any_some, Bool.not_true, Bool.false_eq_true, if_false,
        Option.bind_some]
      cases o.severity? <;> rfl
    · simp [ho]

theorem applyOption_eq_some_iff {c : Config} {d e : Diagnostic} :
    c.applyOption d = some e ↔ c.isOff d.rule = false ∧ c.regrade d = e := by
  rw [applyOption_eq]
  cases c.isOff d.rule <;> simp

/-- The severity of the findings of a rule, if they are reported. -/
def severityOf (c : Config) (rule : Text) : Severity :=
  ((c.options.lookup rule).bind RuleOption.severity?).getD .error

theorem severity_of_mem_applyOptions {c : Config} {ds : List Diagnostic} {e : Diagnostic}
    (hds : ∀ d ∈ ds, d.severity = .error) (he : e ∈ c.applyOptions ds) :
    e.severity = c.severityOf e.rule := by
  obtain ⟨d, hd, happly⟩ := List.mem_filterMap.mp he
  obtain ⟨-, rfl⟩ := applyOption_eq_some_iff.mp happly
  unfold regrade
  rw [hds d hd]
  rfl

end Config

namespace Report

/-- Whatever the configuration, findings that are errors at first make the same report in every
order: the findings that the options leave, sorted. -/
theorem ofFindings_eq_of_perm (c : Config) (path : Text) {ds ds' : List Diagnostic}
    (hds : ∀ d ∈ ds, d.severity = .error) (hperm : ds.Perm ds') :
    let r := ofFindings path (c.applyOptions ds)
    let r' := ofFindings path (c.applyOptions ds')
    r = r' ∧ r.diagnostics.map Diagnostic.severity = r'.diagnostics.map Diagnostic.severity ∧
      r.hasErrors = r'.hasErrors ∧ r.errorCount = r'.errorCount ∧
      r.diagnostics.Perm (c.applyOptions ds) ∧
      r.diagnostics.Pairwise fun a b => (Diagnostic.compareInReport a b).isLE := by
  intro r r'
  have hleft : (c.applyOptions ds).Perm (c.applyOptions ds') := hperm.filterMap c.applyOption
  have hreport : r = r' := by
    unfold r r' ofFindings Diagnostic.sortForReport
    rw [mergeSort_eq_of_perm Diagnostic.compareInReport hleft]
    -- The rule decides on the severity, so findings that compare equal agree in it, too.
    intro a ha b hb hab
    obtain ⟨hline, hrule, hmessage⟩ := Diagnostic.compareInReport_eq_eq_iff.mp hab
    have hseverity : a.severity = b.severity := by
      rw [Config.severity_of_mem_applyOptions hds ha, Config.severity_of_mem_applyOptions hds hb,
        hrule]
    cases a
    cases b
    simp_all
  refine ⟨hreport, ?_, ?_, ?_, List.mergeSort_perm _ _,
    pairwise_mergeSort_of_cmp Diagnostic.compareInReport _⟩
  · rw [hreport]
  · rw [hreport]
  · rw [hreport]

/-- Options that turn one rule off, make another one a warning and leave a third as it is. -/
def gradedConfig : Config :=
  { options := [("a".toList, .level "warning".toList), ("b".toList, .switch false),
      ("c".toList, .level "severe".toList)] }

/-- Findings on one line, some of them repeated. -/
def mixedFindings : List Diagnostic :=
  [⟨"c".toList, 2, "y".toList, .error⟩, ⟨"a".toList, 2, "x".toList, .error⟩,
    ⟨"b".toList, 1, "x".toList, .error⟩, ⟨"a".toList, 2, "x".toList, .error⟩,
    ⟨"a".toList, 0, "z".toList, .error⟩]

theorem ofFindings_eq_mixedFindings :
    (∀ d ∈ mixedFindings, d.severity = .error) ∧ mixedFindings ≠ mixedFindings.reverse ∧
      ofFindings [] (gradedConfig.applyOptions mixedFindings) =
        ofFindings [] (gradedConfig.applyOptions mixedFindings.reverse) ∧
      (ofFindings [] (gradedConfig.applyOptions mixedFindings)).errorCount = 1 := by
  have hds : ∀ d ∈ mixedFindings, d.severity = .error := by decide
  obtain ⟨hreport, -, -, -, hleft, -⟩ :=
    ofFindings_eq_of_perm gradedConfig [] hds (List.reverse_perm mixedFindings).symm
  refine ⟨hds, by decide, hreport, ?_⟩
  rw [errorCount, (hleft.filter Diagnostic.isError).length_eq]
  decide

end Report

end DocLint
