import PipelineShell.Execution.Stage

/-!
# Stages in turn

`_run_mixed`: runs one stage after another with a closed channel between them, up to the first that
is not started or raises.
-/

namespace PipelineShell

/-- What has become of a pipeline. -/
structure Run where
  ended : Ended
  sink : Outlet
  errors : Outlet
  /-- The channels between the stages that were run, as these have left them. -/
  channels : List Channel := []
  started : List Command := []
  state : State
  deriving DecidableEq, Repr

/-- Closes the opened targets. A target that has lost what was written to it fails then. -/
def Run.release (r : Run) : Run :=
  { r with
    ended := if r.sink.hasLost || r.errors.hasLost then .raised (.unwritable .noSpace) else r.ended
    sink := r.sink.close, errors := r.errors.close }

/-- The command of a stage that has ended so, if it was started at all: a builtin always is, and a
program that was started has a status. -/
def Stage.started : Stage → StageEnd → List Command
  | .builtin c _, _ | .external c _, .finished _ => [c]
  | .external _ _, .notStarted | .external _ _, .raised _ => []

def Inlet.channels : Inlet → List Channel
  | .session => []
  | .channel c => [c]

def Outlet.closedChannel : Outlet → Channel
  | .channel c => c.close
  | _ => Channel.close {}

namespace Shell

/-- `_run_mixed` while some files are held open for writing, the first stage reading from `source`.
No stages end with the given status. -/
def runInTurn (sh : Shell) (held : List Place) (status : Int) (source : Inlet)
    (sink errors : Outlet) (s : State) :
    List Stage → Run
  | [] => { ended := .returned status, sink, errors, state := s }
  | [stage] =>
    let (ended, w, s) := sh.runStage held stage ⟨source, sink, errors⟩ s
    { ended := ended.ended, sink := w.sink, errors := w.errors, channels := w.source.channels,
      started := stage.started ended, state := s }
  | stage :: next :: rest =>
    let (ended, w, s) := sh.runStage held stage ⟨source, .channel {}, errors⟩ s
    let channels := w.source.channels
    let channel := w.sink.closedChannel
    match ended with
    | .finished status =>
      let run := sh.runInTurn held status (.channel channel) sink w.errors s (next :: rest)
      { run with
        channels := channels ++ run.channels
        started := stage.command :: run.started }
    | ended =>
      { ended := ended.ended, sink, errors := w.errors, channels := channels ++ [channel],
        started := stage.started ended, state := s }

end Shell
end PipelineShell
