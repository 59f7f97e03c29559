import PipelineShell.Proofs.Execution.InTurn
import PipelineShell.Proofs.Execution.Rejection

/-!
# A pipeline that breaks

`_run_mixed` up to a stage that is not started or raises: no stage after it is run, and all channels
and opened targets are closed.
-/

namespace PipelineShell

/-- Each run is on exactly what the one before it has left. -/
inductive Follows : State → List StageRun → State → Prop
  | nil (s : State) : Follows s [] s
  | cons {s s' : State} {r : StageRun} {runs : List StageRun} (before : r.before = s)
      (rest : Follows r.after runs s') : Follows s (r :: runs) s'

theorem Follows.eq_after {s s' : State} {runs : List StageRun} {r : StageRun}
    (h : Follows s runs s') (hr : runs.getLast? = some r) : s' = r.after := by
  induction h with
  | nil s => cases hr
  | @cons s s' first runs before rest ih =>
    cases runs with
    | nil =>
      cases rest
      cases hr
      rfl
    | cons next runs =>
      rw [List.getLast?_cons_cons] at hr
      exact ih hr

/-- A program that is not started is reported to the session, wherever its error output leads. -/
theorem StageRun.Made.notStarted {sh : Shell} {held : List Place} {r : StageRun}
    (h : r.Made sh held) (hended : r.ended = .notStarted) :
    r.left = r.wiring ∧
      r.after = r.before.emit .stderr (notFoundMessage r.stage.command.name).lineBytes := by
  unfold Made at h
  cases hstage : r.stage with
  | builtin c b =>
    rw [hstage, Shell.runStage, hended] at h
    cases hrun : ((b c.args).run sh.base sh.names r.wiring r.before).1 with
    | returned status => simp [StageEnd.ofEnded, hrun] at h
    | raised failure => simp [StageEnd.ofEnded, hrun] at h
  | external c executable =>
    rw [hstage, Shell.runStage, hended] at h
    cases hl : sh.programs.launch (Shell.invocation r.before held c executable) r.before.files with
    | error refusal =>
      rw [sh.runProgram_refused hl] at h
      simp only [Prod.mk.injEq] at h
      obtain ⟨hend, hleft, hafter⟩ := h
      rcases Shell.refused_cases c r.before refusal with ⟨_, _, _, hrefused⟩ | ⟨_, _, hrefused⟩
      · rw [hrefused] at hafter
        exact ⟨hleft.symm, hafter.symm⟩
      · rw [hrefused] at hend
        cases hend
    | ok process =>
      rw [sh.runProgram_launched hl] at h
      simp at h

/-- A program that the system refuses is not started, unless its name cannot be reported. -/
theorem StageRun.Made.notStarted_of_launch {sh : Shell} {held : List Place} {r : StageRun}
    (h : r.Made sh held) {c : Command} {executable : Text} {cause : SystemError}
    (hstage : r.stage = .external c executable)
    (hl : sh.programs.launch (Shell.invocation r.before held c executable) r.before.files =
      .error (.system cause)) (hname : c.name.IsWhole) : r.ended = .notStarted := by
  unfold Made at h
  rw [hstage, Shell.runStage, sh.runProgram_refused hl] at h
  rcases Shell.refused_cases c r.before (.system cause) with ⟨_, _, _, hrefused⟩ | ⟨_, hnot, _⟩
  · rw [hrefused] at h
    exact (congrArg Prod.fst h).symm
  · exact absurd hname (hnot cause rfl)

namespace Shell
variable {sh : Shell} {held : List Place} {source : Inlet} {sink errors : Outlet} {s : State}
  {stages : List Stage} {runs : List StageRun} {run : Run} {r : StageRun} {k : Nat}

/-- Stages in turn that have been run up to one that has not ended with a status. -/
structure StopsAt (sh : Shell) (held : List Place) (sink : Outlet) (s : State)
    (stages : List Stage) (k : Nat) (r : StageRun) (runs : List StageRun) (run : Run) : Prop where
  /-- Each stage up to this one has been run once, and none behind it. -/
  once : runs.map StageRun.stage = stages.take (k + 1)
  made : ∀ t ∈ runs, t.Made sh held
  last : runs.getLast? = some r
  finished : ∀ t ∈ runs.dropLast, ∃ st, t.ended = .finished st
  /-- What each of them has done to the session and the files is what the next one finds, and in
  the end it is all there. -/
  follows : Follows s runs run.state
  started : run.started = (stages.take k).map Stage.command ++ r.stage.started r.ended
  ended : run.ended = r.ended.ended
  errors : run.errors = r.left.errors
  closed : ∀ c ∈ run.channels, c.closed = true
  /-- If there is a stage behind it, the sink has never been written to. -/
  apart : k + 1 < stages.length → run.sink = sink ∧ (∀ t ∈ runs, t.wiring.sink = .channel {}) ∧
    run.state.output .stdout = s.output .stdout

theorem InTurn.length_channels (h : sh.InTurn held source sink errors s stages runs run)
    (hsink : sink.isOpen = true) (herrors : errors.isOpen = true) :
    run.channels.length = source.channels.length + min runs.length (stages.length - 1) := by
  induction h with
  | last hrun =>
    obtain ⟨hmade, rfl, rfl, hwiring⟩ := of_stageRun hrun
    have hleaves := hmade.leaves (by rw [hwiring]; exact hsink) (by rw [hwiring]; exact herrors)
    rw [hleaves.channels, hwiring]
    simp
  | broken hrun unfinished =>
    obtain ⟨hmade, rfl, rfl, hwiring⟩ := of_stageRun hrun
    have hleaves := hmade.leaves (by rw [hwiring]; rfl) (by rw [hwiring]; exact herrors)
    simp only [List.length_append, hleaves.channels, hwiring, List.length_cons, List.length_nil]
    omega
  | next hrun finished behind ih =>
    obtain ⟨hmade, rfl, rfl, hwiring⟩ := of_stageRun hrun
    have hleaves := hmade.leaves (by rw [hwiring]; rfl) (by rw [hwiring]; exact herrors)
    have hbehind := ih hsink hleaves.errors_isOpen
    rw [Inlet.channels, List.length_singleton] at hbehind
    simp only [List.length_append, hleaves.channels, hwiring, hbehind, List.length_cons]
    omega

theorem InTurn.stopsAt (h : sh.InTurn held source sink errors s stages runs run)
    (hsource : source.Finished) (hsink : sink.isOpen = true) (herrors : errors.isOpen = true)
    (hstdout : errors ≠ .session .stdout) (hr : runs[k]? = some r)
    (hbroken : ∀ st, r.ended ≠ .finished st) :
    sh.StopsAt held sink s stages k r runs run := by
  induction h generalizing k with
  | @last source sink errors s stage r' hrun =>
    obtain ⟨hmade, rfl, rfl, hwiring⟩ := of_stageRun hrun
    have hleaves := hmade.leaves (by rw [hwiring]; exact hsink) (by rw [hwiring]; exact herrors)
    obtain ⟨rfl, rfl⟩ : k = 0 ∧ r' = r := by simpa [List.getElem?_singleton] using hr
    refine ⟨by simp, List.forall_mem_singleton.2 hmade, rfl, by simp, .cons rfl (.nil _), by simp,
      rfl, rfl, ?_, fun hk => absurd hk (by simp)⟩
    exact hleaves.finished (by rw [hwiring]; exact hsource)
  | @broken source sink errors s stage next rest r' hrun unfinished =>
    obtain ⟨hmade, rfl, rfl, hwiring⟩ := of_stageRun hrun
    have hleaves := hmade.leaves (by rw [hwiring]; rfl) (by rw [hwiring]; exact herrors)
    obtain ⟨rfl, rfl⟩ : k = 0 ∧ r' = r := by simpa [List.getElem?_singleton] using hr
    refine ⟨by simp, List.forall_mem_singleton.2 hmade, rfl, by simp, .cons rfl (.nil _), by simp,
      rfl, rfl, ?_, fun _ => ⟨rfl, List.forall_mem_singleton.2 (by rw [hwiring]), ?_⟩⟩
    · -- the channel behind the stage is closed too, though nobody comes to read it
      intro c hc
      cases List.mem_append.1 hc with
      | inl hc => exact hleaves.finished (by rw [hwiring]; exact hsource) c hc
      | inr hc => exact finished_closedChannel _ c hc
    · exact hleaves.stdout (by rw [hwiring]; nofun) (by rw [hwiring]; exact hstdout)
  | @next source sink errors s stage next rest r' runs st others hrun finished behind ih =>
    obtain ⟨hmade, rfl, rfl, hwiring⟩ := of_stageRun hrun
    have hleaves := hmade.leaves (by rw [hwiring]; rfl) (by rw [hwiring]; exact herrors)
    have herrors' : r'.left.errors ≠ .session .stdout := by
      rw [ne_eq, hleaves.errors_session, hwiring]
      exact hstdout
    cases k with
    | zero =>
      -- the stage that has broken is not this one
      cases hr
      exact absurd finished (hbroken st)
    | succ k =>
      have hothers := ih (finished_closedChannel _) hsink hleaves.errors_isOpen herrors' hr
      have hne : runs ≠ [] := fun h => by simp [h] at hr
      refine ⟨?_, ?_, ?_, ?_, .cons rfl hothers.follows, ?_, hothers.ended, hothers.errors, ?_, ?_⟩
      · rw [List.map_cons, hothers.once, ← List.take_succ_cons]
      · exact List.forall_mem_cons.2 ⟨hmade, hothers.made⟩
      · rw [List.getLast?_cons, hothers.last]
        rfl
      · rw [List.dropLast_cons_of_ne_nil hne]
        exact List.forall_mem_cons.2 ⟨⟨st, finished⟩, hothers.finished⟩
      · rw [hothers.started, List.take_succ_cons, List.map_cons, List.cons_append]
      · intro c hc
        cases List.mem_append.1 hc with
        | inl hc => exact hleaves.finished (by rw [hwiring]; exact hsource) c hc
        | inr hc => exact hothers.closed c hc
      · intro hk
        obtain ⟨hrest, hchannels, hout⟩ := hothers.apart (Nat.lt_of_succ_lt_succ hk)
        refine ⟨hrest, List.forall_mem_cons.2 ⟨by rw [hwiring], hchannels⟩, ?_⟩
        rw [hout]
        exact hleaves.stdout (by rw [hwiring]; nofun) (by rw [hwiring]; exact hstdout)

theorem closed_of_close {sink : Outlet} {handle : Handle} (h : sink.close = .file handle) :
    handle.closed = true := by
  cases sink with
  | session o => cases h
  | channel c => cases h
  | file other =>
    obtain rfl : other.close = handle := Outlet.file.inj h
    rfl

theorem hasLost_close (sink : Outlet) : sink.close.hasLost = sink.hasLost := by
  cases sink <;> rfl

theorem openOutlet_ne_stdout {base : Text} {redirect : Option Redirect} {s' : State}
    (h : s.openOutlet base .stderr redirect = .ok (errors, s')) : errors ≠ .session .stdout := by
  rcases State.eq_of_openOutlet h with rfl | ⟨handle, rfl⟩ <;> nofun

/-- A run of `_run_mixed` that breaks at stage `k`: the stages before it have run once and keep
their effects, none after it is run, nothing reaches the sink unless it is the last, and all
channels and targets are closed. The pipeline ends as stage `k` does, with a report if a program
whose name has an encoding was not started; but if a target has lost what was written to it, closing
it raises instead. -/
theorem pipeline_stops (sh : Shell) (p : Pipeline) (s : State) {s₁ s₂ : State}
    (hstages : sh.stages s p.stages = .ok stages) (hmixed : externals? stages = none)
    (hout : s.openOutlet sh.base .stdout p.stdout = .ok (sink, s₁))
    (herr : s₁.openOutlet sh.base .stderr p.stderr = .ok (errors, s₂))
    (hr : (sh.pipelineRuns p s)[k]? = some r) (hbroken : ∀ st, r.ended ≠ .finished st) :
    let run := sh.runPipeline p s
    (∃ stopped, run = stopped.release ∧
      sh.StopsAt (heldPlaces sink errors) sink s₂ stages k r (sh.pipelineRuns p s) stopped) ∧
    run.channels.length = min (k + 1) (stages.length - 1) ∧
    (∀ handle, run.sink = .file handle ∨ run.errors = .file handle → handle.closed = true) ∧
    run.ended = (if run.sink.hasLost || run.errors.hasLost then .raised (.unwritable .noSpace)
      else r.ended.ended) ∧
    (r.ended = .notStarted → r.ended.ended = .returned notFoundStatus ∧
      run.state = r.before.emit .stderr (notFoundMessage r.stage.command.name).lineBytes ∧
      run.errors = r.wiring.errors.close) ∧
    (∀ c executable cause, r.stage = .external c executable →
      sh.programs.launch (invocation r.before (heldPlaces sink errors) c executable)
        r.before.files = .error (.system cause) → c.name.IsWhole → r.ended = .notStarted) := by
  intro run
  let held := heldPlaces sink errors
  let stopped := sh.runInTurn held 0 .session sink errors s₂ stages
  have hne : stages ≠ [] := by
    rintro rfl
    cases hmixed
  have hruns : sh.pipelineRuns p s = sh.runsInTurn held .session sink errors s₂ stages := by
    simp only [pipelineRuns, hstages, hout, herr, hmixed, held, heldPlaces]
  have hrun : run = stopped.release := by
    simp only [run, runPipeline_of_opened hstages hout herr, runStages, hmixed, stopped, held,
      heldPlaces]
  have hturn : sh.InTurn held .session sink errors s₂ stages _ stopped :=
    inTurn_of_ne_nil hne 0 .session errors s₂
  rw [hruns] at hr ⊢
  have hsinkOpen := sh.isOpen_of_openOutlet hout
  have herrorsOpen := sh.isOpen_of_openOutlet herr
  have hstops := hturn.stopsAt (by simp [Inlet.Finished, Inlet.channels]) hsinkOpen herrorsOpen
    (openOutlet_ne_stdout herr) hr hbroken
  have hlength := hturn.length_channels hsinkOpen herrorsOpen
  have hlast := List.mem_of_getLast? hstops.last
  refine ⟨⟨stopped, hrun, hstops⟩, ?_, ?_, ?_, fun hrefused => ?_,
    fun c executable cause => (hstops.made r hlast).notStarted_of_launch⟩
  · have hcount := congrArg List.length hstops.once
    rw [List.length_map, List.length_take] at hcount
    have hk := (List.getElem?_eq_some_iff.1 hr).1
    rw [hrun]
    simp only [Run.release, hlength, Inlet.channels, List.length_nil]
    omega
  · rw [hrun]
    rintro handle (h | h)
    · exact closed_of_close h
    · exact closed_of_close h
  · rw [hrun]
    simp only [Run.release, hasLost_close, hstops.ended]
  · obtain ⟨hleft, hafter⟩ := (hstops.made r hlast).notStarted hrefused
    rw [hrun]
    refine ⟨by rw [hrefused, StageEnd.ended], ?_, ?_⟩
    · rw [← hafter]
      exact hstops.follows.eq_after hstops.last
    · rw [← hleft]
      exact congrArg Outlet.close hstops.errors

/-- A system that starts no program. -/
def refusing : Shell :=
  { plain with
    programs :=
      { Process := Unit
        start _ _ := .error .notFound
        run _ _ files := { output := [], statuses := [], files } } }

def unstarted : State where
  session := { cwd := "/".runes }
  files :=
    { entries := [(.named ["d".runes], .directory Mode.directory),
        (.named ["g".runes], .file {} Mode.program)] }

/-- A change of directory, a program that is not started, and a stage behind it. -/
def cutShort : Pipeline where
  stages := [⟨"cd".runes, ["d".runes]⟩, ⟨"/g".runes, []⟩, ⟨"pwd".runes, []⟩]
  stdout := some ⟨"new".runes, false⟩

theorem pipeline_stops_unstarted :
    let run := refusing.runPipeline cutShort unstarted
    (∃ r, (refusing.pipelineRuns cutShort unstarted)[1]? = some r ∧
      (∀ st, r.ended ≠ .finished st) ∧
      run.state = r.before.emit .stderr (notFoundMessage r.stage.command.name).lineBytes) ∧
    run.ended = .returned notFoundStatus ∧ run.channels.length = 2 ∧
      run.state.session.cwd = "/d".runes := by
  let cd : Stage := .builtin ⟨"cd".runes, ["d".runes]⟩ Builtin.cd
  let g : Stage := .external ⟨"/g".runes, []⟩ "/g".runes
  let pwd : Stage := .builtin ⟨"pwd".runes, []⟩ Builtin.pwd
  let new : Handle := { place := .named ["new".runes] }
  let opened : State :=
    { unstarted with files := unstarted.files.set new.place (.file {} Mode.plain) }
  let moved : State := { opened with session := unstarted.session.enter "/d".runes }
  let r := refusing.stageRun [new.place] g
    ⟨.channel { closed := true }, .channel {}, .session .stderr⟩ moved
  have hprogram : refusing.program? unstarted "/g".runes = some "/g".runes := by
    decide +kernel
  have hg : refusing.stage? unstarted ⟨"/g".runes, []⟩ = some g := by
    rw [stage?, hprogram]
    rfl
  have hstages : refusing.stages unstarted cutShort.stages = .ok [cd, g, pwd] := by
    have hcd : refusing.stage? unstarted ⟨"cd".runes, ["d".runes]⟩ = some cd := rfl
    have hpwd : refusing.stage? unstarted ⟨"pwd".runes, []⟩ = some pwd := rfl
    simp only [cutShort, stages, hcd, hg, hpwd]
  have hcd : refusing.runStage [new.place] cd ⟨.session, .channel {}, .session .stderr⟩ opened =
      (.finished 0, ⟨.session, .channel {}, .session .stderr⟩, moved) := by decide +kernel
  have hrefused : r.ended = .notStarted := by decide +kernel
  have hr : (refusing.pipelineRuns cutShort unstarted)[1]? = some r := by
    have hruns : refusing.pipelineRuns cutShort unstarted =
        refusing.runsInTurn [new.place] .session (.file new) (.session .stderr) opened
          [cd, g, pwd] := by
      simp only [pipelineRuns, hstages]
      rfl
    rw [hruns, runsInTurn, stageRun, hcd]
    rfl
  have hbroken : ∀ st, r.ended ≠ .finished st := by simp [hrefused]
  obtain ⟨-, hchannels, -, hended, hreport⟩ :=
    pipeline_stops refusing cutShort unstarted hstages rfl rfl rfl hr hbroken
  obtain ⟨hstatus, hstate, -⟩ := hreport.1 hrefused
  refine ⟨⟨r, hr, hbroken, hstate⟩, ?_, hchannels, ?_⟩
  · rw [hended, hstatus]
    exact if_neg (by decide +kernel)
  · rw [hstate]
    rfl

/-- A system whose programs write one byte to their error output. -/
def complaining : Shell :=
  { plain with
    programs :=
      { Process := Unit
        start _ _ := .ok ()
        run _ _ files := { output := [⟨0, .stderr, [0x21]⟩], statuses := [0], files } } }

def brimful : State where
  session := { cwd := "/".runes }
  files :=
    { entries := [(.named ["oops".runes], .file {} Mode.program),
        (.named ["full".runes], .device .full)] }

def losing : Pipeline where
  stages := [⟨"/oops".runes, []⟩, ⟨"exit".runes, ["3".runes]⟩]
  stderr := some ⟨"full".runes, false⟩

/-- A failure gives way to the failure to close a target that has lost what was written to it. -/
theorem raise_gives_way :
    ∃ r, (complaining.pipelineRuns losing brimful)[1]? = some r ∧ r.ended = .raised (.exit 3) ∧
      (complaining.runPipeline losing brimful).ended = .raised (.unwritable .noSpace) := by
  let oops : Command := ⟨"/oops".runes, []⟩
  let exit : Command := ⟨"exit".runes, ["3".runes]⟩
  let full : Handle := { place := .named ["full".runes], full := true }
  have hprogram : complaining.program? brimful "/oops".runes = some "/oops".runes := by
    decide +kernel
  have hstages : complaining.stages brimful losing.stages =
      .ok [.external oops "/oops".runes, .builtin exit Builtin.exit] := by
    have hstage : complaining.stage? brimful oops = some (.external oops "/oops".runes) := by
      rw [stage?, hprogram]
      rfl
    rw [losing, stages, hstage]
    rfl
  have herr : brimful.openOutlet complaining.base .stderr losing.stderr =
      .ok (.file full, brimful) := rfl
  have hoops : complaining.runStage [full.place] (.external oops "/oops".runes)
      ⟨.session, .channel {}, .file full⟩ brimful =
      (.finished 0, ⟨.session, .channel {}, .file { full with lost := true }⟩, brimful) := by
    have hlaunch : complaining.programs.launch
      (invocation brimful [full.place] oops "/oops".runes) brimful.files = .ok () := rfl
    rw [runStage, complaining.runProgram_launched hlaunch]
    simp only [complaining]
    rw [Wiring.deliver_refused _ (by decide) (by decide) (by decide) rfl rfl]
    rfl
  have hrun := runPipeline_of_opened hstages rfl herr
  have hruns : complaining.pipelineRuns losing brimful =
      complaining.runsInTurn [full.place] .session (.session .stdout) (.file full) brimful
        [.external oops "/oops".runes, .builtin exit Builtin.exit] := by
    simp only [pipelineRuns, hstages]
    rfl
  refine ⟨complaining.stageRun [full.place] (.builtin exit Builtin.exit)
    ⟨.channel { closed := true }, .session .stdout, .file { full with lost := true }⟩ brimful,
    ?_, rfl, ?_⟩
  · rw [hruns, runsInTurn, stageRun, hoops]
    rfl
  · have hmixed : complaining.runStages [.external oops "/oops".runes, .builtin exit Builtin.exit]
        (.session .stdout) (.file full) brimful =
        complaining.runInTurn [full.place] 0 .session (.session .stdout) (.file full) brimful
          [.external oops "/oops".runes, .builtin exit Builtin.exit] := rfl
    rw [hrun, hmixed, runInTurn_next 0 hoops]
    rfl

end Shell
end PipelineShell
