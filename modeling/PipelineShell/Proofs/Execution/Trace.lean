import PipelineShell.Proofs.Execution.Composition
import PipelineShell.Proofs.Execution.Memory

/-!
# The runs of the stages of a line

The list of the stage runs of a line, each on the state that the one before has left. Only the last
may have ended without a status, and it decides how the line ends.
-/

namespace PipelineShell

/-- A stage at work: what it was run on, how it ended, and what it has left. -/
structure StageRun where
  stage : Stage
  wiring : Wiring
  before : State
  ended : StageEnd
  left : Wiring
  after : State

/-- The stage is what its command stands for: a builtin by its name, else a program. -/
def Shell.Resolves (sh : Shell) : Stage → Prop
  | .builtin c behaviour => sh.builtin? c.name = some behaviour
  | .external c _ => sh.builtin? c.name = none

/-- The run is one that the shell makes of such a stage, with somewhere to write to. -/
structure StageRun.Genuine (sh : Shell) (r : StageRun) : Prop where
  run : ∃ held, sh.runStage held r.stage r.wiring r.before = (r.ended, r.left, r.after)
  resolved : sh.Resolves r.stage
  writable : r.wiring.sink.isOpen = true

/-- Each run is on what the one before it has left in the memory of the session. -/
inductive Linked : State → List StageRun → State → Prop
  | nil {s s' : State} (kept : s'.memory = s.memory) : Linked s [] s'
  | cons {s s' : State} {r : StageRun} {runs : List StageRun} (kept : r.before.memory = s.memory)
      (rest : Linked r.after runs s') : Linked s (r :: runs) s'

theorem Linked.append {s s' s'' : State} {runs more : List StageRun} (h : Linked s runs s')
    (k : Linked s' more s'') : Linked s (runs ++ more) s'' := by
  induction h with
  | @nil s s' kept =>
    cases k with
    | nil kept' => exact .nil (kept'.trans kept)
    | cons kept' rest => exact .cons (kept'.trans kept) rest
  | cons kept _ ih => exact .cons kept (ih k)

/-- A trace leads to what is remembered in the end. The failure of a run is that of the whole unless
a target has lost something, and nothing else raises `SystemExit`. -/
structure Traced (sh : Shell) (s : State) (runs : List StageRun) (ended : Ended) (s' : State) :
    Prop where
  linked : Linked s runs s'
  genuine : ∀ r ∈ runs, r.Genuine sh
  raised : ∀ r ∈ runs, ∀ failure, r.ended = .raised failure →
    ended = .raised failure ∨ ended = .raised (.unwritable .noSpace)
  exit : ∀ code, ended = .raised (.exit code) → ∃ r ∈ runs, r.ended = .raised (.exit code)

theorem Traced.nil {sh : Shell} {s s' : State} {ended : Ended} (kept : s'.memory = s.memory)
    (goesOn : ∀ code, ended ≠ .raised (.exit code)) : Traced sh s [] ended s' where
  linked := .nil kept
  genuine _ hr := nomatch hr
  raised _ hr := nomatch hr
  exit code h := absurd h (goesOn code)

theorem Shell.mem_of_builtin? {sh : Shell} {name : Text} {b : Builtin}
    (h : sh.builtin? name = some b) : (name, b) ∈ sh.builtins := by
  obtain ⟨⟨name', b'⟩, hfind, rfl⟩ := Option.map_eq_some_iff.1 h
  have hname : name' = name := by simpa using List.find?_some hfind
  exact hname ▸ List.mem_of_find?_eq_some hfind

namespace StageRun.Genuine
variable {sh : Shell} {r : StageRun} {c : Command}

theorem of_builtin (h : r.Genuine sh) {b : Builtin} (hstage : r.stage = .builtin c b) :
    (c.name, b) ∈ sh.builtins ∧ ∃ ended, r.ended = .ofEnded ended ∧
      (b c.args).run sh.base sh.names r.wiring r.before = (ended, r.left, r.after) := by
  obtain ⟨held, hrun⟩ := h.run
  have hresolved := h.resolved
  rw [hstage, Shell.Resolves] at hresolved
  rw [hstage, Shell.runStage] at hrun
  simp only [Prod.mk.injEq] at hrun
  obtain ⟨hended, hleft, hafter⟩ := hrun
  exact ⟨Shell.mem_of_builtin? hresolved, _, hended.symm,
    Prod.ext rfl (Prod.ext hleft hafter)⟩

theorem of_external (h : r.Genuine sh) {executable : Text}
    (hstage : r.stage = .external c executable) :
    sh.builtin? c.name = none ∧ r.after.memory = r.before.memory := by
  obtain ⟨held, hrun⟩ := h.run
  have hresolved := h.resolved
  rw [hstage, Shell.Resolves] at hresolved
  rw [hstage, Shell.runStage] at hrun
  have hkept := sh.memory_runProgram held c executable r.wiring r.before
  rw [hrun] at hkept
  exact ⟨hresolved, hkept⟩

end StageRun.Genuine

namespace Shell

/-- A stage as it is run. -/
def stageRun (sh : Shell) (held : List Place) (stage : Stage) (w : Wiring) (s : State) : StageRun :=
  let (ended, left, after) := sh.runStage held stage w s
  { stage, wiring := w, before := s, ended, left, after }

/-- The runs of stages that are run in turn. -/
def runsInTurn (sh : Shell) (held : List Place) (source : Inlet) (sink errors : Outlet)
    (s : State) : List Stage → List StageRun
  | [] => []
  | [stage] => [sh.stageRun held stage ⟨source, sink, errors⟩ s]
  | stage :: next :: rest =>
    let r := sh.stageRun held stage ⟨source, .channel {}, errors⟩ s
    match r.ended with
    | .finished _ =>
      r :: sh.runsInTurn held (.channel r.left.sink.closedChannel) sink r.left.errors r.after
        (next :: rest)
    | .notStarted | .raised _ => [r]

/-- The runs of the stages of a pipeline, if these are run in turn. -/
def pipelineRuns (sh : Shell) (p : Pipeline) (s : State) : List StageRun :=
  match sh.stages s p.stages with
  | .error _ => []
  | .ok stages =>
    match s.openOutlet sh.base .stdout p.stdout with
    | .error _ => []
    | .ok (sink, s) =>
      match s.openOutlet sh.base .stderr p.stderr with
      | .error _ => []
      | .ok (errors, s) =>
        match externals? stages with
        | some _ => []
        | none =>
          sh.runsInTurn ((sink.handle?.toList ++ errors.handle?.toList).map (·.place)) .session sink
            errors s stages

/-- The runs of the stages of a line, if these are run in turn. -/
def lineRuns (sh : Shell) (line : Text) (s : State) : List StageRun :=
  match Pipeline.ofLine line with
  | .error _ => []
  | .ok p => sh.pipelineRuns p s

variable (sh : Shell) (held : List Place) {source : Inlet} {sink errors : Outlet} {s : State}
  {stages : List Stage} {r : StageRun}

/-! ### Stages in turn -/

/-- The first stage is run; either there is nothing behind it that is reached, or it has ended with
a status and the others go on from what it has left. -/
theorem runsInTurn_cons (hsink : sink.isOpen = true) (status : Int) (source : Inlet)
    (errors : Outlet) (s : State) (stage : Stage) (rest : List Stage) :
    ∃ r : StageRun, r.stage = stage ∧ r.before = s ∧ r.wiring.sink.isOpen = true ∧
      sh.runStage held stage r.wiring s = (r.ended, r.left, r.after) ∧
      ((sh.runsInTurn held source sink errors s (stage :: rest) = [r] ∧
          (sh.runInTurn held status source sink errors s (stage :: rest)).state = r.after ∧
          (sh.runInTurn held status source sink errors s (stage :: rest)).ended = r.ended.ended) ∨
        ∃ st channel, r.ended = .finished st ∧ rest ≠ [] ∧
          sh.runsInTurn held source sink errors s (stage :: rest) =
            r :: sh.runsInTurn held (.channel channel) sink r.left.errors r.after rest ∧
          (sh.runInTurn held status source sink errors s (stage :: rest)).state =
            (sh.runInTurn held st (.channel channel) sink r.left.errors r.after rest).state ∧
          (sh.runInTurn held status source sink errors s (stage :: rest)).ended =
            (sh.runInTurn held st (.channel channel) sink r.left.errors r.after rest).ended) := by
  cases rest with
  | nil => exact ⟨sh.stageRun held stage ⟨source, sink, errors⟩ s, rfl, rfl, hsink, rfl,
      .inl ⟨rfl, rfl, rfl⟩⟩
  | cons next rest =>
    -- with others behind it the stage writes to a channel of its own, whatever the sink is
    refine ⟨sh.stageRun held stage ⟨source, .channel {}, errors⟩ s, rfl, rfl, rfl, rfl, ?_⟩
    rcases hrun : sh.runStage held stage ⟨source, .channel {}, errors⟩ s with ⟨ended, w, s'⟩
    cases ended with
    | finished st =>
      refine .inr ⟨st, w.sink.closedChannel, ?_, by simp, ?_, ?_, ?_⟩
      · simp only [stageRun, hrun]
      · simp only [runsInTurn, stageRun, hrun]
      · rw [runInTurn_next status hrun]
        simp only [stageRun, hrun]
      · rw [runInTurn_next status hrun]
        simp only [stageRun, hrun]
    | notStarted => exact .inl (by simp only [runsInTurn, runInTurn, stageRun, hrun, and_self])
    | raised failure => exact .inl (by simp only [runsInTurn, runInTurn, stageRun, hrun, and_self])

theorem runsInTurn_linked (hsink : sink.isOpen = true) (status : Int) (source : Inlet)
    (errors : Outlet) (s : State) (stages : List Stage) :
    Linked s (sh.runsInTurn held source sink errors s stages)
      (sh.runInTurn held status source sink errors s stages).state := by
  induction stages generalizing status source errors s with
  | nil => exact .nil rfl
  | cons stage rest ih =>
    obtain ⟨r, -, hbefore, -, -, ⟨hruns, hstate, -⟩ | ⟨st, channel, -, -, hruns, hstate, -⟩⟩ :=
      sh.runsInTurn_cons held hsink status source errors s stage rest
    · rw [hruns, hstate]
      exact .cons (by rw [hbefore]) (.nil rfl)
    · rw [hruns, hstate]
      exact .cons (by rw [hbefore]) (ih st _ _ _)

theorem runsInTurn_genuine (hsink : sink.isOpen = true)
    (hstages : ∀ stage ∈ stages, sh.Resolves stage) :
    ∀ r ∈ sh.runsInTurn held source sink errors s stages, r.Genuine sh := by
  induction stages generalizing source errors s with
  | nil => exact fun r hr => nomatch hr
  | cons stage rest ih =>
    obtain ⟨hstage, hrest⟩ := List.forall_mem_cons.1 hstages
    obtain ⟨r, rfl, rfl, hopen, hrun, ⟨hruns, -⟩ | ⟨st, channel, -, -, hruns, -⟩⟩ :=
      sh.runsInTurn_cons held hsink 0 source errors s stage rest
    · rw [hruns]
      exact List.forall_mem_singleton.2 ⟨⟨held, hrun⟩, hstage, hopen⟩
    · rw [hruns]
      exact List.forall_mem_cons.2 ⟨⟨⟨held, hrun⟩, hstage, hopen⟩, ih hrest⟩

theorem runsInTurn_ended (hsink : sink.isOpen = true) (status : Int) (source : Inlet)
    (errors : Outlet) (s : State) (hstages : stages ≠ []) :
    ∃ r, (sh.runsInTurn held source sink errors s stages).getLast? = some r ∧
      (sh.runInTurn held status source sink errors s stages).ended = r.ended.ended := by
  induction stages generalizing status source errors s with
  | nil => exact absurd rfl hstages
  | cons stage rest ih =>
    obtain ⟨r, -, -, -, -, ⟨hruns, -, hended⟩ | ⟨st, channel, -, hne, hruns, -, hended⟩⟩ :=
      sh.runsInTurn_cons held hsink status source errors s stage rest
    · rw [hruns, hended]
      exact ⟨r, rfl, rfl⟩
    · obtain ⟨last, hlast, hlastEnded⟩ := ih st (.channel channel) r.left.errors r.after hne
      rw [hruns, hended]
      exact ⟨last, by rw [List.getLast?_cons, hlast]; rfl, hlastEnded⟩

theorem runsInTurn_last_of_unfinished (hsink : sink.isOpen = true) (source : Inlet)
    (errors : Outlet) (s : State) (stages : List Stage)
    (hr : r ∈ sh.runsInTurn held source sink errors s stages)
    (hended : ∀ st, r.ended ≠ .finished st) :
    (sh.runsInTurn held source sink errors s stages).getLast? = some r := by
  induction stages generalizing source errors s with
  | nil => cases hr
  | cons stage rest ih =>
    obtain ⟨first, -, -, -, -, ⟨hruns, -⟩ | ⟨st, channel, hfirst, -, hruns, -⟩⟩ :=
      sh.runsInTurn_cons held hsink 0 source errors s stage rest
    · rw [hruns] at hr ⊢
      rw [List.mem_singleton.1 hr]
      rfl
    · rw [hruns] at hr ⊢
      cases List.mem_cons.1 hr with
      | inl hr => exact absurd hfirst (hr ▸ hended st)
      | inr hr => rw [List.getLast?_cons, ih _ _ _ hr]; rfl

/-! ### Pipelines and lines -/

theorem isOpen_of_openOutlet {s' : State} {output : Output} {redirect : Option Redirect}
    (h : s.openOutlet sh.base output redirect = .ok (sink, s')) : sink.isOpen = true := by
  rcases State.eq_of_openOutlet h with rfl | ⟨handle, rfl⟩
  · rfl
  · rfl

theorem openOutlet_ne_exit {failure : Failure} {output : Output} {redirect : Option Redirect}
    (h : s.openOutlet sh.base output redirect = .error failure) (code : Int) :
    failure ≠ .exit code := by
  obtain ⟨r, -, hr⟩ := State.unopened_of_openOutlet h
  cases hr with
  | unfit spoilt => obtain ⟨rfl, -⟩ | ⟨e, rfl⟩ := Text.unfit?_eq_some spoilt <;> nofun
  | system fit refused => nofun

theorem release_ended (run : Run) :
    run.release.ended = run.ended ∨ run.release.ended = .raised (.unwritable .noSpace) := by
  unfold Run.release
  simp only
  split
  · exact .inr rfl
  · exact .inl rfl

theorem fault?_ne_exit {i : Invocation} {failure : Failure} (h : i.fault? = some failure)
    (code : Int) : failure ≠ .exit code := by
  rintro rfl
  have hunfit (t : Text) : t.unfit? ≠ some (.exit code) := fun ht => by
    obtain ⟨hnul, -⟩ | ⟨e, he⟩ := Text.unfit?_eq_some ht
    · cases hnul
    · cases he
  have hunencodable (t : Text) : Invocation.unencodable? t ≠ some (.exit code) := fun ht => by
    obtain ⟨e, -, he⟩ := Option.map_eq_some_iff.1 ht
    cases he
  have hnul (t : Text) : Invocation.nul? t ≠ some (.exit code) := fun ht => by
    unfold Invocation.nul? at ht
    split at ht <;> cases ht
  have hname (t : Text) : (if t.contains '=' then some Failure.illegalVariableName else none) ≠
      some (.exit code) := fun ht => by
    split at ht <;> cases ht
  simp only [Invocation.fault?, Option.or_eq_some_iff, List.findSome?_eq_some_iff] at h
  rcases h with ⟨_, v, _, -, hv, -⟩ | ⟨-, h⟩
  · simp only [Invocation.variableFault?, Option.or_eq_some_iff] at hv
    rcases hv with hv | ⟨-, hv | ⟨-, hv⟩⟩
    · exact hunencodable _ hv
    · exact hname _ hv
    · exact hunencodable _ hv
  · rcases h with h | ⟨-, ⟨_, t, _, -, ht, -⟩ | ⟨-, ⟨_, v, _, -, hv, -⟩ | ⟨-, h⟩⟩⟩
    · exact hunfit _ h
    · exact hunfit _ ht
    · rcases hv with hv | ⟨-, hv⟩
      · exact hnul _ hv
      · exact hnul _ hv
    · exact hunfit _ h

theorem launch_of_startAll {stage : Nat} {before : Option Nat} {commands : List (Command × Text)}
    {name : Text} {refusal : Refusal}
    (h : (sh.startAll s held sink errors stage before commands).refused = some (name, refusal)) :
    ∃ i, sh.programs.launch i s.files = .error refusal := by
  induction commands generalizing stage before with
  | nil => cases h
  | cons command rest ih =>
    obtain ⟨c, executable⟩ := command
    rw [startAll] at h
    simp only at h
    split at h
    · next refusal' hlaunch =>
      cases h
      exact ⟨_, hlaunch⟩
    · exact ih h

theorem launch_ne_exit {i : Invocation} {files : FileSystem} {failure : Failure}
    (h : sh.programs.launch i files = .error (.unfit failure)) (code : Int) :
    failure ≠ .exit code := by
  unfold Programs.launch at h
  split at h
  · next hfault =>
    cases h
    exact fault?_ne_exit hfault code
  · split at h <;> cases h

theorem runTogether_ne_exit (commands : List (Command × Text)) (sink errors : Outlet) (s : State)
    (code : Int) :
    (sh.runTogether held commands sink errors s).1.ended ≠ .raised (.exit code) := by
  unfold runTogether
  simp only
  split
  · split <;> simp
  · exact State.conclude_ne_exit _ _ _ code
  · next hrefused =>
    obtain ⟨i, hlaunch⟩ := sh.launch_of_startAll held hrefused
    exact fun h => sh.launch_ne_exit hlaunch code (Ended.raised.inj h)

theorem release_runTogether_ne_exit (commands : List (Command × Text)) (sink errors : Outlet)
    (s : State) (code : Int) :
    (sh.runTogether held commands sink errors s).1.release.ended ≠ .raised (.exit code) := by
  rcases release_ended (sh.runTogether held commands sink errors s).1 with hsame | hlost
  · rw [hsame]
    exact sh.runTogether_ne_exit held commands sink errors s code
  · rw [hlost]
    simp

theorem resolves_of_stages {cs : List Command} (h : sh.stages s cs = .ok stages) :
    ∀ stage ∈ stages, sh.Resolves stage := by
  induction cs generalizing stages with
  | nil =>
    cases h
    exact fun stage hstage => nomatch hstage
  | cons c cs ih =>
    unfold Shell.stages at h
    split at h
    · cases h
    · next stage hstage =>
      split at h
      · cases h
      · next rest hrest =>
        cases h
        refine List.forall_mem_cons.2 ⟨?_, ih hrest⟩
        unfold stage? at hstage
        split at hstage
        · next b hb =>
          cases hstage
          exact hb
        · next hb =>
          obtain ⟨path, -, rfl⟩ := Option.map_eq_some_iff.1 hstage
          exact hb

/-- Stages that are run in turn leave a trace of what they come to, also when the outlets are closed
behind them. -/
theorem runsInTurn_traced (hsink : sink.isOpen = true) (hne : stages ≠ [])
    (hstages : ∀ stage ∈ stages, sh.Resolves stage) {s₁ : State} (kept : s₁.memory = s.memory) :
    let run := sh.runInTurn held 0 .session sink errors s₁ stages
    Traced sh s (sh.runsInTurn held .session sink errors s₁ stages) run.release.ended
      run.release.state := by
  intro run
  obtain ⟨last, hlast, hended⟩ := sh.runsInTurn_ended held hsink 0 .session errors s₁ hne
  refine ⟨(Linked.nil kept).append (sh.runsInTurn_linked held hsink 0 .session errors s₁ stages),
    sh.runsInTurn_genuine held hsink hstages, fun r hr failure hfailure => ?_, fun code hexit => ?_⟩
  · -- a run that fails is the last one, and the stages end as the last one does
    have hunfinished : ∀ st, r.ended ≠ .finished st := by simp [hfailure]
    have hr' := sh.runsInTurn_last_of_unfinished held hsink .session errors s₁ stages hr hunfinished
    rw [hlast, Option.some.injEq] at hr'
    rw [hr', hfailure] at hended
    exact (release_ended run).imp_left (·.trans hended)
  · refine ⟨last, List.mem_of_getLast? hlast, ?_⟩
    rcases release_ended run with hsame | hlost
    · rw [hsame, hended] at hexit
      cases hl : last.ended with
      | finished st => simp [hl, StageEnd.ended] at hexit
      | notStarted => simp [hl, StageEnd.ended] at hexit
      | raised failure => simpa [hl, StageEnd.ended] using hexit
    · rw [hlost] at hexit
      cases hexit

theorem pipelineRuns_traced (p : Pipeline) (s : State) :
    Traced sh s (sh.pipelineRuns p s) (sh.runPipeline p s).ended (sh.runPipeline p s).state := by
  cases hstages : sh.stages s p.stages with
  | error name =>
    simp only [pipelineRuns, hstages]
    rw [runPipeline_of_unknown hstages]
    exact .nil (s.memory_conclude ..) (s.conclude_ne_exit _ _)
  | ok stages =>
    cases hout : s.openOutlet sh.base .stdout p.stdout with
    | error failure =>
      simp only [pipelineRuns, hstages, hout]
      rw [runPipeline_of_unopened_stdout hstages hout]
      exact .nil rfl fun code h => sh.openOutlet_ne_exit hout code (Ended.raised.inj h)
    | ok opened =>
      obtain ⟨sink, s₁⟩ := opened
      have hkept₁ := State.memory_openOutlet hout
      cases herr : s₁.openOutlet sh.base .stderr p.stderr with
      | error failure =>
        simp only [pipelineRuns, hstages, hout, herr]
        rw [runPipeline_of_unopened_stderr hstages hout herr]
        exact .nil hkept₁ fun code h => sh.openOutlet_ne_exit herr code (Ended.raised.inj h)
      | ok opened =>
        obtain ⟨errors, s₂⟩ := opened
        have hkept₂ := (State.memory_openOutlet herr).trans hkept₁
        rw [runPipeline_of_opened hstages hout herr]
        cases hext : externals? stages with
        | some commands =>
          simp only [pipelineRuns, hstages, hout, herr, hext, runStages]
          exact .nil ((sh.memory_runTogether _ _ _ _ _).trans hkept₂)
            (sh.release_runTogether_ne_exit _ commands sink errors s₂)
        | none =>
          have hne : stages ≠ [] := by
            rintro rfl
            cases hext
          simp only [pipelineRuns, hstages, hout, herr, hext, runStages]
          exact sh.runsInTurn_traced _ (sh.isOpen_of_openOutlet hout) hne
            (sh.resolves_of_stages hstages) hkept₂

theorem lineRuns_traced (line : Text) (s : State) :
    Traced sh s (sh.lineRuns line s) (sh.runLine line s).1 (sh.runLine line s).2 := by
  cases hp : Pipeline.ofLine line with
  | error e =>
    simp only [lineRuns, hp]
    by_cases hwords : Word.scan line = .ok []
    · rw [runLine_of_blank sh s hwords]
      exact .nil rfl nofun
    · rw [runLine_of_error sh s hwords hp]
      exact .nil (s.memory_conclude ..) (s.conclude_ne_exit _ _)
  | ok p =>
    simp only [lineRuns, hp]
    rw [runLine_of_pipeline sh s hp]
    exact sh.pipelineRuns_traced p s

end Shell
end PipelineShell
