import PipelineShell.Execution.InTurn

/-!
# Stages together

`_run_shell_group`: starts all programs of a pipeline with pipes between them, pumps what is not an
open file, and waits for the last process. It closes the reading end of each pipe that it holds
(`prev_stdout`) once the next program has been started, or when it gives up.
-/

namespace PipelineShell

/-- What the shell does while it starts a pipeline. Stages are counted from zero. -/
inductive PipeEvent
  | started (stage : Nat)
  /-- The shell holds the reading end of the pipe that a stage writes to. -/
  | held (stage : Nat)
  | closed (stage : Nat)
  deriving DecidableEq, Repr

/-- A pump that the shell starts for programs that run side by side. -/
inductive GroupPump
  /-- It fills the input of the first program from that of the session. -/
  | feed
  | drain (stage : Nat) (output : Output)
  deriving DecidableEq, Repr

/-- A pipeline that has been started as far as possible. -/
structure Started (Process : Type) where
  /-- The programs that were started, with what each was joined to. -/
  processes : List (Process × Ends) := []
  pumps : List GroupPump := []
  /-- The first stage that was refused, by the name of its command. -/
  refused : Option (Text × Refusal) := none
  events : List PipeEvent := []

/-- What a program is joined to that writes to this outlet: a file is handed to it, and anything
else is drained. -/
def Outlet.endpoint : Outlet → OutputEnd
  | .file handle => .file handle
  | .session _ | .channel _ => .drained

/-- What a stage is joined to that is the first or the last of its pipeline or neither. -/
def Ends.at (sink errors : Outlet) (isFirst isLast : Bool) : Ends where
  input := if isFirst then .fed else .pipe
  output := if isLast then sink.endpoint else .pipe
  errors := errors.endpoint

def Ends.pumps (e : Ends) (stage : Nat) : List GroupPump :=
  (if e.input = .fed then [.feed] else []) ++
    (if e.errors = .drained then [.drain stage .stderr] else []) ++
    (if e.output = .drained then [.drain stage .stdout] else [])

namespace Shell

/-- The loop of `_run_shell_group` from stage number `stage` on, while the shell holds the reading
end of the pipe of stage `held` (`prev_stdout`), and some files open for writing. -/
def startAll (sh : Shell) (s : State) (files : List Place) (sink errors : Outlet) (stage : Nat)
    (held : Option Nat) : List (Command × Text) → Started sh.programs.Process
  | [] => { events := held.toList.map .closed }
  | (c, executable) :: rest =>
    let ends := Ends.at sink errors (stage = 0) rest.isEmpty
    match sh.programs.launch (invocation s files c executable) s.files with
    | .error refusal => { refused := some (c.name, refusal), events := held.toList.map .closed }
    | .ok process =>
      let next := if rest.isEmpty then none else some stage
      let later := sh.startAll s files sink errors (stage + 1) next rest
      { later with
        processes := (process, ends) :: later.processes
        pumps := ends.pumps stage ++ later.pumps
        events := .started stage :: next.toList.map .held ++ held.toList.map .closed ++
          later.events }

/-- `_run_shell_group` while some files are held open for writing. The first program takes the whole
input of the session, whether it reads it or not. The pumps pass on what comes out of the pipes that
they empty, and the status is that of the last process. -/
def runTogether (sh : Shell) (held : List Place) (commands : List (Command × Text))
    (sink errors : Outlet) (s : State) : Run × List PipeEvent :=
  let started := sh.startAll s held sink errors 0 none commands
  let running := (commands.take started.processes.length).map (·.1)
  let (input, fed) := if started.pumps.contains .feed then s.takeInput else ([], s)
  let effect := sh.programs.run started.processes input fed.files
  let passed := effect.output.filter fun piece =>
    started.pumps.contains (.drain piece.stage piece.output)
  let (w, fed) :=
    Wiring.deliver ⟨.session, sink, errors⟩ { fed with files := effect.files } [] passed
  let (ended, s) : Ended × State :=
    match started.refused with
    | none =>
      (if commands.isEmpty then .raised .noStage
        else .returned (effect.status (started.processes.length - 1)), fed)
    | some (name, .system _) => fed.conclude (notFoundMessage name) notFoundStatus
    | some (_, .unfit failure) => (.raised failure, fed)
  ({ ended, sink := w.sink, errors := w.errors, started := running, state := s }, started.events)

end Shell
end PipelineShell
