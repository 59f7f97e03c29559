import PipelineShell.Builtin.Behaviour
import PipelineShell.Execution.Wiring
import PipelineShell.Program.Basic
import PipelineShell.SearchPath
import PipelineShell.Stream.Pump

/-!
# Stages

`ResolvedStage`, and how a single stage is run: the handler of a builtin, or a process between pumps
(`_run_external_stage`).
-/

namespace PipelineShell

/-- What a shell works with: the directory of its process, its builtins by name, and the programs
of the system. -/
structure Shell where
  base : Text
  builtins : List (Text × Builtin)
  programs : Programs

/-- `ResolvedStage`: a command with its handler or its executable. -/
inductive Stage
  | builtin (command : Command) (behaviour : Builtin)
  | external (command : Command) (executable : Text)

def Stage.command : Stage → Command
  | .builtin c _ | .external c _ => c

def Stage.isBuiltin : Stage → Bool
  | .builtin _ _ => true
  | .external _ _ => false

/-- How a stage ends. -/
inductive StageEnd
  | finished (status : Int)
  | notStarted
  | raised (failure : Failure)
  deriving DecidableEq, Repr

def notFoundStatus : Int := 127

def notFoundMessage (name : Text) : Text := name ++ ": command not found".runes

/-- How a pipeline ends that has come to the end of this stage and goes no further. -/
def StageEnd.ended : StageEnd → Ended
  | .finished status => .returned status
  | .notStarted => .returned notFoundStatus
  | .raised failure => .raised failure

def StageEnd.ofEnded : Ended → StageEnd
  | .returned status => .finished status
  | .raised failure => .raised failure

namespace Outlet

def pumpSink : Sink (Outlet × State) where
  write data target :=
    match target.1.write data target.2 with
    | .ok target => (target, true)
    | .error (_, sink) => ((sink, target.2), false)
  flush target := (target, true)
  close target := ((target.1.close, target.2), true)

def relay (sink : Outlet) (data : Bytes) (s : State) : Outlet × State :=
  (Pump.run Channel.source pumpSink true false (Channel.ofBytes data) (sink, s)).2

end Outlet

/-- Pumps what programs have written to the two places of a wiring, in order. There is a pump for
each output of each stage; those in `broken` have stopped. -/
def Wiring.deliver (w : Wiring) (s : State) (broken : List (Nat × Output)) :
    List Piece → Wiring × State
  | [] => (w, s)
  | ⟨stage, o, data⟩ :: rest =>
    if (stage, o) ∈ broken then w.deliver s broken rest
    else
      let (outlet, s) := (w.outlet o).relay data s
      let breaks := !data.isEmpty && !(w.outlet o).accepts
      (w.withOutlet o outlet).deliver s (if breaks then (stage, o) :: broken else broken) rest

namespace Shell

def names (sh : Shell) : List Text := sh.builtins.map (·.1)

def builtin? (sh : Shell) (name : Text) : Option Builtin :=
  (sh.builtins.find? (·.1 = name)).map (·.2)

def program? (sh : Shell) (s : State) (name : Text) : Option Text :=
  SearchPath.locate s.files sh.base s.session.searchPath s.session.cwd name

def stage? (sh : Shell) (s : State) (c : Command) : Option Stage :=
  match sh.builtin? c.name with
  | some b => some (.builtin c b)
  | none => (sh.program? s c.name).map (.external c)

/-- `_resolve_stages`: the stages of the commands, or the name of the first that is not found. -/
def stages (sh : Shell) (s : State) : List Command → Except Text (List Stage)
  | [] => .ok []
  | c :: rest =>
    match sh.stage? s c with
    | none => .error c.name
    | some stage =>
      match sh.stages s rest with
      | .error name => .error name
      | .ok stages => .ok (stage :: stages)

/-- What `_spawn` starts the program of a stage with, while some files are held open for writing. -/
def invocation (s : State) (held : List Place) (c : Command) (executable : Text) : Invocation :=
  { executable, argv := c.argv, cwd := s.session.cwd, env := s.session.env, held }

/-- `_run_external_stage`: runs a program between pumps. It reads all that comes from the stage
before it; the first stage reads nothing. -/
def runProgram (sh : Shell) (held : List Place) (c : Command) (executable : Text) (w : Wiring)
    (s : State) : StageEnd × Wiring × State :=
  match sh.programs.launch (invocation s held c executable) s.files with
  | .error (.system _) =>
    match s.report (notFoundMessage c.name) with
    | .error failure => (.raised failure, w, s)
    | .ok s => (.notStarted, w, s)
  | .error (.unfit failure) => (.raised failure, w, s)
  | .ok process =>
    let (input, w) : Bytes × Wiring :=
      match w with
      | ⟨.session, sink, errors⟩ => ([], ⟨.session, sink, errors⟩)
      | ⟨.channel channel, sink, errors⟩ =>
        let (input, channel) := channel.readAll
        (input, ⟨.channel channel, sink, errors⟩)
    let effect := sh.programs.run [(process, {})] input s.files
    let (w, s) := w.deliver { s with files := effect.files } [] effect.output
    (.finished (effect.status 0), w, s)

def runStage (sh : Shell) (held : List Place) (stage : Stage) (w : Wiring) (s : State) :
    StageEnd × Wiring × State :=
  match stage with
  | .builtin c behaviour =>
    let (ended, w, s) := (behaviour c.args).run sh.base sh.names w s
    (.ofEnded ended, w, s)
  | .external c executable => sh.runProgram held c executable w s

end Shell
end PipelineShell
