import PipelineShell.Builtin.Standard
import PipelineShell.Startup
import PipelineShell.Userland

/-!
# The command line

The program at a terminal, on a file system held in memory.
-/

namespace PipelineShell.Terminal

def shell : Shell :=
  { base := [.char '/'], builtins := Builtin.standard, programs := Userland.programs [.char '/'] }

/-- The variables of the session: those of its system, and the level of diagnostics that the process
was given. -/
def environment : IO Environment := do
  let env : Environment := [("PATH".runes, "/usr/bin:/bin".runes), ("HOME".runes, "/root".runes)]
  match ← IO.getEnv (String.ofList (Text.chars LogLevel.variableName)) with
  | some level => return env.set LogLevel.variableName level.runes
  | none => return env

def put (stream : IO.FS.Stream) (data : Bytes) : IO Unit := do
  stream.write (ByteArray.mk data.toArray)
  stream.flush

def display (s : State) : IO State := do
  put (← IO.getStdout) s.session.stdout
  put (← IO.getStderr) s.session.stderr
  return { s with session := { s.session with stdout := [], stderr := [] } }

def nextLine : IO (Option Text) := do
  put (← IO.getStdout) (Text.printed prompt)
  let line ← (← IO.getStdin).getLine
  return if line.isEmpty then none else some (line.runes.takeWhile (· ≠ .char '\n'))

/-- Handles lines up to the end of the input or to an exit. -/
partial def converse (l : Loop) : IO Ended := do
  match ← nextLine with
  | none =>
    let (ended, l) := shell.interact .session [] l
    let _ ← display l.state
    return ended
  | some line =>
    let (ending, l) := shell.handle .session (.line line) l
    let state ← display l.state
    match ending with
    | some failure => return .raised failure
    | none => converse { l with state }

end PipelineShell.Terminal

open PipelineShell

def main (args : List String) : IO UInt32 := do
  let session := Session.start [.char '/'] "/root".runes (← Terminal.environment) [] []
  let ended ←
    match Terminal.shell.prepare (args.map String.runes) ⟨session, Userland.files⟩ with
    | .error outcome =>
      let _ ← Terminal.display outcome.state
      pure outcome.ended
    | .ok (_, l) => Terminal.converse l
  return ended.exitCode.toUInt32
