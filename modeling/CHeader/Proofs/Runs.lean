import CHeader.Command.Run

/-!
# Runs with loaded settings

If the settings of a run have been loaded, then its command decides the outcome: a result is printed
with exit code 0, and an error is reported with exit code 1 and nothing on the standard output.
-/

namespace CHeader

variable {around : Surroundings} {invocation : Invocation} {config : Config}

/-- The log of a command whose settings have been loaded. -/
def Invocation.fullLog (invocation : Invocation) (around : Surroundings) (config : Config) :
    List LogEntry :=
  around.configLog invocation ++ invocation.command.log around.files config

/-- With loaded settings the result of the command is printed, or its error is reported. -/
theorem Invocation.run_of_config (settings : around.config invocation = .ok config) :
    invocation.run around =
      match invocation.command.result around.files config with
      | .error error => invocation.failure (invocation.fullLog around config) error.report
      | .ok document =>
          { exitCode := 0
            output := document.print around.generated config.layout
            errors :=
              renderLog invocation.verbose invocation.color
                (invocation.fullLog around config) } := by
  rw [run, settings]
  rfl

theorem Invocation.succeeds_iff (settings : around.config invocation = .ok config) {output : Text} :
    (invocation.run around).exitCode = 0 ∧ (invocation.run around).output = output ↔
      ∃ document, invocation.command.result around.files config = .ok document ∧
        output = document.print around.generated config.layout := by
  rw [run_of_config settings]
  cases invocation.command.result around.files config with
  | error error => simp [failure]
  | ok document => simp [eq_comm]

theorem Invocation.exitCode_eq_zero_iff (settings : around.config invocation = .ok config) :
    (invocation.run around).exitCode = 0 ↔
      ∃ document, invocation.command.result around.files config = .ok document := by
  rw [run_of_config settings]
  cases invocation.command.result around.files config with
  | error error => simp [failure]
  | ok document => simp

theorem Invocation.fails_iff (settings : around.config invocation = .ok config) :
    (invocation.run around).exitCode = 1 ∧ (invocation.run around).output = [] ↔
      ∃ error, invocation.command.result around.files config = .error error := by
  rw [run_of_config settings]
  cases invocation.command.result around.files config with
  | error error => simp [failure]
  | ok document => simp

end CHeader
