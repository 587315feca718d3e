import CompileFlags.Disk
import CompileFlags.Markup

/-!
# The command

The command line around `Cli.run`: it reads the disk, runs, writes the disk and prints.
-/

open CompileFlags in
/-- Runs the command. A fault that no answer covers is told, and ends the run with code one. -/
def main (words : List String) : IO UInt32 := do
  let env : Env := {
    home := (← IO.getEnv "HOME").getD ""
    cwd := ⟨FileSystem.steps (Text.ofString (toString (← IO.currentDir))), 0⟩
    clock := ← Disk.clock
    users := ← Disk.users }
  let words := words.map Text.ofString
  let files ← Disk.read env words
  let outcome := Cli.run Markup.console env files words
  Disk.write files outcome.files
  IO.eprint outcome.stderr.display
  IO.print outcome.stdout.display
  if let some panel := outcome.panel then IO.print panel.plainText.display
  match outcome.exit with
  | .ok code => return code.toUInt32
  | .error fault =>
    IO.eprintln fault.message.display
    return 1
