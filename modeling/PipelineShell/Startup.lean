import PipelineShell.Interaction
import PipelineShell.Usage

/-!
# The whole program

`main`: reads the arguments, chooses the log level and runs `repl` on a session with the environment
of the process.
-/

namespace PipelineShell

/-- What has become of the program. -/
structure Outcome where
  ended : Ended
  /-- The level of the diagnostics; none if the loop was not entered. -/
  level : Option LogLevel
  prompts : Nat
  state : State
  deriving DecidableEq, Repr

/-- The bytes of a text on the terminal; half of a surrogate pair is written as an escape. -/
def Text.printed (t : Text) : Bytes :=
  Utf8.encodeChars (Text.chars (t.flatMap fun
    | .char c => [.char c]
    | .lone half => .char '\\' :: .char 'u' :: Text.hex 4 (Rune.toNat (.lone half))))

/-- How a program ends whose loop has ended: the status of the loop is the status of the program. -/
def Ended.ofProgram : Ended → Ended
  | .returned status => .raised (.exit status)
  | ended => ended

namespace Shell

/-- The program up to its first prompt: the loop that it enters, or what has become of it if its
arguments or the search path end it before. -/
def prepare (sh : Shell) (args : List Text) (s : State) : Except Outcome (LogLevel × Loop) :=
  let columns := Usage.columns s.session.env
  match Usage.read args with
  | .help =>
    .error
      { ended := .raised (.exit 0), level := none, prompts := 0
        state := s.emit .stdout (Text.printed (Usage.helpText columns sh.names)) }
  | .refuse message =>
    .error
      { ended := .raised (.exit Usage.refusalStatus), level := none, prompts := 0
        state := s.emit .stderr (Text.printed (Usage.refusalText columns message)) }
  | .run =>
    let level := LogLevel.choose none (s.session.env.get? LogLevel.variableName)
    match level with
    | .form pattern =>
      .error { ended := .raised (.unknownLevel pattern), level := none, prompts := 0, state := s }
    | .level l =>
      match sh.enter s with
      | .error failure => .error { ended := .raised failure, level := l, prompts := 0, state := s }
      | .ok loop => .ok (l, loop)

/-- `main` on some arguments and inputs. -/
def start (sh : Shell) (args : List Text) (inputs : List Input) (s : State) : Outcome :=
  match sh.prepare args s with
  | .error outcome => outcome
  | .ok (level, l) =>
    let (ended, l) := sh.interact .session inputs l
    { ended := ended.ofProgram, level, prompts := l.prompts, state := l.state }

end Shell

/-- The status of an ended program as the system sees it: its low eight bits, and all of them for a
status that no machine word holds. A program that fails has the status of a failed line. -/
def Ended.exitCode : Ended → Nat
  | .returned status | .raised (.exit status) =>
    if -0x8000000000000000 ≤ status ∧ status < 0x8000000000000000 then (status % 256).toNat
    else 255
  | .raised _ => failedStatus.toNat

end PipelineShell
