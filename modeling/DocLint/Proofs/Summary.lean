import DocLint.Command.Run

/-!
# What is printed as text

Reports are printed one after the other, those without findings not at all, and a line with three
numbers ends the text. The numbers can be read off that line whatever the paths and messages before
it hold, and they are those of all reports: the numbers of reports, of findings and of errors.
-/

namespace DocLint

namespace Text

/-! ## Numbers in a text -/

/-- The numbers written in a text, behind digits that have the value `begun` so far. -/
def numbersFrom : (begun : Option Nat) → Text → List Nat
  | begun, [] => begun.toList
  | begun, c :: cs =>
    if isDigit c then numbersFrom (some (10 * begun.getD 0 + (c.toNat - '0'.toNat))) cs
    else begun.toList ++ numbersFrom none cs

/-- The numbers written in a text: the values of its longest runs of digits. -/
def numbersIn (t : Text) : List Nat :=
  numbersFrom none t

/-- The last line of a text that ends with a line feed. -/
def lastLine (t : Text) : Text :=
  (t.dropLast.reverse.takeWhile (· != '\n')).reverse

theorem isDigit_of_mem_ofNat {n : Nat} {c : Char} (h : c ∈ ofNat n) : isDigit c = true := by
  have hdigit : c.isDigit = true := Nat.isDigit_of_mem_toDigits (by decide) (by decide) h
  simp only [Char.isDigit, Bool.and_eq_true, decide_eq_true_eq] at hdigit
  simp only [isDigit, Bool.and_eq_true, decide_eq_true_eq]
  exact hdigit

theorem numbersFrom_append_digits {ds : Text} (h : ∀ c ∈ ds, isDigit c = true) (n : Nat)
    (rest : Text) :
    numbersFrom (some n) (ds ++ rest) = numbersFrom (some (Nat.ofDigitChars 10 ds n)) rest := by
  induction ds generalizing n with
  | nil => rfl
  | cons d ds ih =>
    obtain ⟨hd, hds⟩ := List.forall_mem_cons.mp h
    rw [List.cons_append, numbersFrom, if_pos hd, ih hds, Nat.ofDigitChars_cons]
    rfl

theorem numbersFrom_append_words {s : Text} (h : s.any isDigit = false) (rest : Text) :
    numbersFrom none (s ++ rest) = numbersFrom none rest := by
  induction s with
  | nil => rfl
  | cons c cs ih =>
    rw [List.any_cons, Bool.or_eq_false_iff] at h
    obtain ⟨hc, hcs⟩ := h
    rw [List.cons_append, numbersFrom, if_neg (by rw [hc]; decide), Option.toList_none,
      List.nil_append, ih hcs]

/-- A number that was written is read, up to a character that is no digit. -/
theorem numbersFrom_ofNat (n : Nat) {c : Char} (hc : isDigit c = false) (rest : Text) :
    numbersFrom none (ofNat n ++ c :: rest) = n :: numbersFrom none rest := by
  have hvalue : Nat.ofDigitChars 10 (ofNat n) 0 = n :=
    Nat.ofDigitChars_toDigits (by decide) (by decide)
  have hall : ∀ d ∈ ofNat n, isDigit d = true := fun d hd => isDigit_of_mem_ofNat hd
  -- The first digit begins the number, the others go on with it.
  cases hn : ofNat n with
  | nil => exact absurd hn Nat.toDigits_ne_nil
  | cons d ds =>
    rw [hn] at hvalue hall
    obtain ⟨hd, hds⟩ := List.forall_mem_cons.mp hall
    rw [Nat.ofDigitChars_cons] at hvalue
    rw [List.cons_append, numbersFrom, if_pos hd, numbersFrom_append_digits hds]
    show numbersFrom (some (Nat.ofDigitChars 10 ds (10 * 0 + (d.toNat - '0'.toNat)))) _ = _
    rw [hvalue, numbersFrom, if_neg (by rw [hc]; decide)]
    rfl

theorem lastLine_append {line : Text} (h : '\n' ∉ line) (s : Text) :
    lastLine (s ++ '\n' :: (line ++ ['\n'])) = line := by
  have hdrop : (s ++ '\n' :: (line ++ ['\n'])).dropLast = s ++ '\n' :: line := by
    rw [← List.cons_append, ← List.append_assoc, List.dropLast_concat]
  have hline : ∀ c ∈ line.reverse, (c != '\n') = true := by
    intro c hc
    rw [bne_iff_ne]
    rintro rfl
    exact h (List.mem_reverse.mp hc)
  unfold lastLine
  rw [hdrop, List.reverse_append, List.reverse_cons, List.append_assoc,
    List.takeWhile_append_of_pos hline, List.singleton_append, List.takeWhile_cons_of_neg (by decide),
    List.append_nil, List.reverse_reverse]

end Text

namespace Command

open Text

/-! ## Totals -/

theorem total_cons (f : Report → Nat) (r : Report) (rs : List Report) :
    total f (r :: rs) = f r + total f rs := by
  unfold total
  rw [List.map_cons, List.foldl_cons, Nat.add_comm, List.foldl_assoc]

theorem total_length (rs : List Report) :
    total (·.diagnostics.length) rs = (rs.flatMap Report.diagnostics).length := by
  induction rs with
  | nil => rfl
  | cons r rs ih => rw [total_cons, ih, List.flatMap_cons, List.length_append]

theorem total_errorCount (rs : List Report) :
    total Report.errorCount rs =
      ((rs.flatMap Report.diagnostics).filter Diagnostic.isError).length := by
  induction rs with
  | nil => rfl
  | cons r rs ih =>
    rw [total_cons, ih, List.flatMap_cons, List.filter_append, List.length_append]
    rfl

/-! ## Pieces -/

/-- A piece of what is printed: the heading of a report, or a finding. -/
inductive Piece where
  | heading (path : Text)
  | finding (d : Diagnostic)

def severityWord : Severity → Text
  | .error => "error".toList
  | .warning => "warning".toList
  | .info => "info".toList

/-- The line that is printed for a finding: its line in the file, its severity, its rule and its
message. -/
def findingText (d : Diagnostic) : Text :=
  [[' ', ' '], ofNat d.line, [':', ' '], severityWord d.severity, [' ', '['], d.rule,
    [']', ':', ' '], d.message, ['\n']].flatten

def Piece.text : Piece → Text
  | .heading path => '\n' :: (path ++ ":\n".toList)
  | .finding d => findingText d

theorem findingText_eq (d : Diagnostic) : findingText d = findingLine d := by
  have hword : severityWord d.severity = d.severity.name := by cases d.severity <;> rfl
  unfold findingText findingLine
  rw [hword]
  simp only [List.flatten_cons, List.flatten_nil, List.append_nil, List.append_assoc]
  rfl

def Piece.finding? : Piece → Option Diagnostic
  | .heading _ => none
  | .finding d => some d

def pieces (r : Report) : List Piece :=
  if r.diagnostics.isEmpty then [] else .heading r.path :: r.diagnostics.map .finding

theorem flatMap_text_pieces (r : Report) : (pieces r).flatMap Piece.text = reportText r := by
  unfold pieces reportText
  split
  · rfl
  · rw [List.flatMap_cons, List.flatMap_map, ← funext findingText_eq]
    rfl

theorem filterMap_finding?_pieces (r : Report) :
    (pieces r).filterMap Piece.finding? = r.diagnostics := by
  unfold pieces
  split
  · rename_i h
    rw [List.isEmpty_iff.mp h]
    rfl
  · rw [List.filterMap_cons_none rfl, List.filterMap_map]
    exact List.filterMap_some

/-! ## The summary -/

def summaryLine (reports findings errors : Nat) : Text :=
  "Checked ".toList ++ (ofNat reports ++ (" files, found ".toList ++ (ofNat findings ++
    (" issues (".toList ++ (ofNat errors ++ " errors)".toList)))))

theorem numbersIn_summaryLine (reports findings errors : Nat) :
    numbersIn (summaryLine reports findings errors) = [reports, findings, errors] := by
  unfold numbersIn summaryLine
  rw [numbersFrom_append_words rfl]
  show numbersFrom none (ofNat reports ++ ' ' :: ("files, found ".toList ++ _)) = _
  rw [numbersFrom_ofNat _ (by decide), numbersFrom_append_words rfl]
  show reports :: numbersFrom none (ofNat findings ++ ' ' :: ("issues (".toList ++ _)) = _
  rw [numbersFrom_ofNat _ (by decide), numbersFrom_append_words rfl]
  show reports :: findings :: numbersFrom none (ofNat errors ++ ' ' :: "errors)".toList) = _
  rw [numbersFrom_ofNat _ (by decide)]
  rfl

theorem not_mem_ofNat (n : Nat) : '\n' ∉ ofNat n := by
  intro h
  have hdigit := isDigit_of_mem_ofNat h
  revert hdigit
  decide

theorem not_mem_summaryLine (reports findings errors : Nat) :
    '\n' ∉ summaryLine reports findings errors := by
  unfold summaryLine
  simp only [List.mem_append, not_or, not_mem_ofNat]
  decide

/-- Everything that is printed: the pieces of all reports, an empty line, and the summary. -/
theorem printText_eq (rs : List Report) :
    let ds := rs.flatMap Report.diagnostics
    printText rs = (rs.flatMap pieces).flatMap Piece.text ++ '\n' ::
      (summaryLine rs.length ds.length (ds.filter Diagnostic.isError).length ++ ['\n']) := by
  intro ds
  have hbody : (rs.flatMap pieces).flatMap Piece.text = rs.flatMap reportText := by
    rw [List.flatMap_assoc]
    simp only [flatMap_text_pieces]
  have hbegin : "\nChecked ".toList = '\n' :: "Checked ".toList := rfl
  have hend : " errors)\n".toList = " errors)".toList ++ ['\n'] := rfl
  rw [hbody]
  unfold printText summaryLine
  rw [total_length, total_errorCount, hbegin, hend]
  simp only [List.append_assoc, List.cons_append]
  rfl

theorem print_ne_nil (format : Format) (rs : List Report) : print format rs ≠ [] := by
  cases format with
  | text =>
    show printText rs ≠ []
    rw [printText_eq]
    simp
  | json =>
    show _ ++ ['\n'] ≠ []
    simp

/-- The text that ends with a summary: the findings of all reports, each once and in order, and the
line with their numbers. -/
theorem printText_summary (rs : List Report) :
    let ds := rs.flatMap Report.diagnostics
    printText rs = (rs.flatMap pieces).flatMap Piece.text ++
      '\n' :: (lastLine (printText rs) ++ ['\n']) ∧
    (rs.flatMap pieces).filterMap Piece.finding? = ds ∧
    numbersIn (lastLine (printText rs)) =
      [rs.length, ds.length, (ds.filter Diagnostic.isError).length] := by
  intro ds
  have hlast : lastLine (printText rs) =
      summaryLine rs.length ds.length (ds.filter Diagnostic.isError).length := by
    rw [printText_eq]
    exact lastLine_append (not_mem_summaryLine _ _ _) _
  refine ⟨?_, ?_, ?_⟩
  · rw [hlast]
    exact printText_eq rs
  · rw [List.filterMap_flatMap]
    simp only [filterMap_finding?_pieces]
    rfl
  · rw [hlast]
    exact numbersIn_summaryLine _ _ _

end Command

end DocLint
