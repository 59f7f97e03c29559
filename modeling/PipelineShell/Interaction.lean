import PipelineShell.Completion.Completer
import PipelineShell.Execution.Line

/-!
# The interactive loop

`repl`: reads a line, appends it to the history, runs it with `execute_line` and reports what it
raised. `exit` ends the loop, and so does a report that cannot be encoded.
-/

namespace PipelineShell

/-- What `input` gives at the prompt. -/
inductive Input
  | line (text : Text)
  | interrupt
  deriving DecidableEq, Repr

def prompt : Text := "$ ".runes

/-- Where `repl` itself prints: to a screen of its own, or to the output of the session. -/
inductive Screen
  | own
  | session
  deriving DecidableEq, Repr

/-- The state of `repl` between two inputs. -/
structure Loop where
  state : State
  status : Int := 0
  printed : Text := []
  prompts : Nat := 0
  deriving DecidableEq, Repr

def interruptedStatus : Int := 130

def failedStatus : Int := 1

namespace Loop

def ask (l : Loop) : Loop := { l with prompts := l.prompts + 1 }

def newline (screen : Screen) (l : Loop) : Loop :=
  match screen with
  | .own => { l with printed := l.printed ++ [.char '\n'] }
  | .session => { l with state := l.state.emit .stdout [10] }

end Loop

def State.remember (s : State) (line : Text) : State :=
  { s with session := s.session.remember [line] }

namespace Shell

/-- `build_completer`, which fails if `PATH` cannot be scanned. -/
def completer (sh : Shell) (s : State) : Except Failure Completer :=
  (SearchPath.programs s.files sh.base s.session.searchPath).map fun names =>
    Completer.ofList (names ++ sh.names)

/-- Runs a line that is not empty; the answer is the failure that ends the loop, if any. -/
def runInput (sh : Shell) (screen : Screen) (line : Text) (l : Loop) : Option Failure × Loop :=
  let (ended, state) := sh.runLine line (l.state.remember line)
  let l := { l with state }
  match ended with
  | .returned status => (none, { l with status })
  | .raised (.exit status) => (some (.exit status), l)
  | .raised .interrupted => (none, { l.newline screen with status := interruptedStatus })
  | .raised failure =>
    match l.state.report ("pipesh: ".runes ++ failure.message) with
    | .error unreported => (some unreported, l)
    | .ok state => (none, { l with state, status := failedStatus })

/-- Handles one input; the answer is the failure that ends the loop, if any. -/
def handle (sh : Shell) (screen : Screen) (input : Input) (l : Loop) : Option Failure × Loop :=
  match input with
  | .interrupt => (none, l.ask.newline screen)
  | .line [] => (none, l.ask)
  | .line line => sh.runInput screen line l.ask

/-- The loop of `repl`. -/
def interact (sh : Shell) (screen : Screen) : List Input → Loop → Ended × Loop
  | [], l => (.returned l.status, l.ask.newline screen)
  | input :: rest, l =>
    match sh.handle screen input l with
    | (some failure, l) => (.raised failure, l)
    | (none, l) => sh.interact screen rest l

/-- `repl` up to its first prompt: the completer is built there. -/
def enter (sh : Shell) (s : State) : Except Failure Loop :=
  (sh.completer s).map fun _ => { state := s }

/-- `repl`. -/
def loop (sh : Shell) (screen : Screen) (inputs : List Input) (s : State) : Ended × Loop :=
  match sh.enter s with
  | .error failure => (.raised failure, { state := s })
  | .ok l => sh.interact screen inputs l

end Shell
end PipelineShell
