import PipelineShell.Execution.Together

/-!
# Running a line

`run_pipeline` and `execute_line`: the line is parsed, its commands are resolved, the targets of its
redirections are opened, and its stages are run.
-/

namespace PipelineShell

def parseErrorStatus : Int := 2

/-- `_open_redirect`, or the output of the session if there is no redirection. -/
def State.openOutlet (base : Text) (output : Output) (redirect : Option Redirect) (s : State) :
    Except Failure (Outlet × State) :=
  match redirect with
  | none => .ok (.session output, s)
  | some r =>
    let path := s.session.resolve r.path
    match Text.unfit? path with
    | some failure => .error failure
    | none =>
      match s.files.openForWriting base path r.append with
      | .error e => .error (.redirectTarget r.path e)
      | .ok (handle, files) => .ok (.file handle, { s with files })

namespace Shell

def externals? : List Stage → Option (List (Command × Text))
  | [] => some []
  | .builtin _ _ :: _ => none
  | .external c executable :: rest => (externals? rest).map ((c, executable) :: ·)

/-- `_run_shell_group` if all stages are programs, else `_run_mixed`. -/
def runStages (sh : Shell) (stages : List Stage) (sink errors : Outlet) (s : State) : Run :=
  let held := (sink.handle?.toList ++ errors.handle?.toList).map (·.place)
  match externals? stages with
  | some commands => (sh.runTogether held commands sink errors s).1
  | none => sh.runInTurn held 0 .session sink errors s stages

/-- `run_pipeline`. -/
def runPipeline (sh : Shell) (p : Pipeline) (s : State) : Run :=
  match sh.stages s p.stages with
  | .error name =>
    let (ended, state) := s.conclude (notFoundMessage name) notFoundStatus
    { ended, sink := .session .stdout, errors := .session .stderr, state }
  | .ok stages =>
    match s.openOutlet sh.base .stdout p.stdout with
    | .error failure =>
      { ended := .raised failure, sink := .session .stdout, errors := .session .stderr, state := s }
    | .ok (sink, s) =>
      match s.openOutlet sh.base .stderr p.stderr with
      | .error failure =>
        { ended := .raised failure, sink := sink.close, errors := .session .stderr, state := s }
      | .ok (errors, s) => (sh.runStages stages sink errors s).release

/-- `execute_line`. A line without words does nothing. -/
def runLine (sh : Shell) (line : Text) (s : State) : Ended × State :=
  let refused (e : ParseError) : Ended × State :=
    s.conclude ("pipesh: parse error: ".runes ++ e.message) parseErrorStatus
  match Word.scan line with
  | .error mark => refused (.unclosedQuote mark)
  | .ok [] => (.returned 0, s)
  | .ok words =>
    match Pipeline.ofWords words with
    | .error e => refused e
    | .ok p =>
      let run := sh.runPipeline p s
      (run.ended, run.state)

end Shell
end PipelineShell
