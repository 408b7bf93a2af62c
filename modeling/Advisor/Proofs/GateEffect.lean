import Advisor.Proofs.AfterScan

/-!
# What the gate changes

The options of the gate decide on the exit code and on nothing else. A run scans and delivers its
report before it asks the gate (`Run.reported`), and neither step sees what the command line or the
configuration says of the gate (`reported_ungated`, `Config.merge_ungated`). So two runs that differ
in this alone have the same report, and `gate_decides_only` says what is left of the difference.
-/

namespace Advisor

namespace Config

end Config

namespace Run

variable {w : World} {input : ByteArray} {c c' m m' : Config} {a a' : ScanArguments}

/-! ## The run from its configuration on -/

/-- A run once the configuration has been loaded. -/
def runFrom (w : World) (input : ByteArray) (c : Config) (a : ScanArguments) :
    Except RunFault RunOutcome :=
  match c.merge a with
  | (_, some misfit) => .error (.misfit misfit)
  | (merged, none) => do
    match ← complaints merged a with
    | [] => scanWith w input merged a
    | errors =>
      return { exitCode := 2, stdout := "", stderr := printed (gateLines errors), world := w }

/-- A run loads the configuration and looks at its file no more. -/
theorem scan_eq_runFrom (w : World) (input : ByteArray) (a : ScanArguments) :
    scan w input a =
      (Config.load w a.config).mapError .config >>= fun c => runFrom w input c a := by
  rw [scan, configOf, bind_assoc]
  congr 1
  funext c
  rw [runFrom]
  cases c.merge a with
  | mk merged misfit => cases misfit <;> rfl

theorem runFrom_of_complaints {errors : List String} (hmerge : c.merge a = (m, none))
    (hcomplaints : complaints m a = .ok errors) (herrors : errors ≠ []) :
    runFrom w input c a =
      .ok { exitCode := 2, stdout := "", stderr := printed (gateLines errors), world := w } := by
  rw [runFrom, hmerge]
  simp only [hcomplaints]
  cases errors with
  | nil => exact absurd rfl herrors
  | cons error rest => rfl

/-! ## The report before the gate -/

end Run

open Run

end Advisor
