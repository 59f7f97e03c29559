import PipelineShell.Proofs.Execution.Composition
import PipelineShell.Proofs.Execution.Functions
import PipelineShell.Proofs.Execution.Memory
import PipelineShell.Proofs.Execution.Redirection

/-!
# `_run_shell_group` and `_run_mixed` on programs

Both return the same status and deliver the same bytes if each program is a function of its input,
and both stop at the first program that is not started.
-/

namespace PipelineShell
open Scene (Steps)

/-! ### What stays as it was -/

/-- Nothing has changed but what the session has been given and read, and the files that are held
open. -/
structure State.Kept (held : List Place) (s t : State) : Prop where
  memory : t.memory = s.memory
  files : s.files.Agrees held t.files

theorem State.Kept.refl (held : List Place) (s : State) : s.Kept held s := ⟨rfl, fun _ _ => rfl⟩

theorem State.Kept.trans {held : List Place} {s t u : State} (h : s.Kept held t)
    (k : t.Kept held u) : s.Kept held u :=
  ⟨k.memory.trans h.memory, fun place hplace =>
    (k.files place hplace).trans (h.files place hplace)⟩

namespace Shell

variable {sh : Shell} {held : List Place} {commands before after : List (Command × Text)}
  {c : Command} {executable : Text} {sink errors : Outlet} {s t : State}
  {perform : sh.programs.Process → Bytes → Performance} {process : sh.programs.Process}
  {processes : List sh.programs.Process}

theorem invocation_congr (h : t.memory = s.memory) (held : List Place) (c : Command)
    (executable : Text) : invocation t held c executable = invocation s held c executable := by
  have henv : t.session.env = s.session.env := congrArg Memory.env h
  have hcwd : t.session.cwd = s.session.cwd := congrArg Memory.cwd h
  simp only [invocation, henv, hcwd]

/-- The commands stand for programs that are all started. -/
inductive Launches (sh : Shell) (held : List Place) (s : State) :
    List (Command × Text) → List sh.programs.Process → Prop
  | nil : Launches sh held s [] []
  | cons {c : Command} {executable : Text} {process : sh.programs.Process}
      {commands : List (Command × Text)} {processes : List sh.programs.Process}
      (launched : sh.programs.launch (invocation s held c executable) s.files = .ok process)
      (rest : Launches sh held s commands processes) :
      Launches sh held s ((c, executable) :: commands) (process :: processes)

/-! ### A program alone -/

/-- A program alone is fed, and its outputs are drained. -/
theorem chained_alone : Ends.Chained [{}] where
  input i e he := by
    obtain ⟨rfl, rfl⟩ : 0 = i ∧ {} = e := by simpa [List.getElem?_singleton, eq_comm] using he
    rfl
  output i e he hnext := by simp at hnext
  errors e he := by
    rw [List.mem_singleton.1 he]
    nofun
  last i e he hpipe := by
    have he' := List.mem_singleton.1 (List.mem_of_getElem? he)
    subst he'
    cases hpipe

theorem alone_of_actAs {fs : FileSystem} (hacts : sh.programs.ActAs perform held s.files)
    (hagrees : s.files.Agrees held fs) (process : sh.programs.Process) (input : Bytes) :
    let effect := sh.programs.run [(process, {})] input fs
    (⟨effect.bytes .stdout, effect.bytes .stderr, effect.status 0⟩ : Performance) =
        perform process input ∧
      ∀ place, effect.files.get? place = fs.get? place := by
  intro effect
  obtain ⟨pieces, hside⟩ := hacts.run [(process, {})] input fs chained_alone.toInLine hagrees
  have hdrained (o : Output) : Piece.bytes o effect.output = Piece.bytesOf 0 o pieces := by
    rw [(hside []).emptied]
    refine Piece.bytes_filter_congr fun piece hpiece _ => ?_
    have hfirst : piece.stage = 0 := by simpa using (hside []).stages piece hpiece
    cases ho : piece.output <;> simp [Piece.end?, Ends.outlet?, hfirst, ho, Ends.outlet]
  obtain ⟨hstdout, hstderr, hstatus⟩ := (hside []).of_chained chained_alone
    (show (performances perform [process] input)[0]? = some (perform process input) from rfl)
  refine ⟨?_, fun place => ?_⟩
  · simp only [Effect.bytes, hdrained, hstdout rfl, hstderr]
    exact congrArg (Performance.mk _ _) hstatus
  · have hstored := (hside [place]).stored place (List.mem_singleton_self place)
    rwa [Piece.store_of_no_file] at hstored
    intro e he o h
    obtain rfl := List.mem_singleton.1 he
    cases o with
    | stdout | stderr =>
      intro hfile
      cases hfile

/-! ### In turn -/

/-- The commands as stages of a pipeline. -/
def programStages (commands : List (Command × Text)) : List Stage :=
  commands.map fun (c, executable) => .external c executable

theorem launch_kept (hacts : sh.programs.ActAs perform held s.files) (hkept : s.Kept held t)
    (c : Command) (executable : Text) :
    sh.programs.launch (invocation t held c executable) t.files =
      sh.programs.launch (invocation s held c executable) s.files := by
  rw [invocation_congr hkept.memory]
  exact hacts.launch _ t.files hkept.files

/-- How a program ends that is started later than the pipeline, from what it makes of its input. -/
structure Performs (held : List Place) (s : State) (p : Performance) (sink errors : Outlet)
    (w' : Wiring) (t' : State) : Prop where
  kept : s.Kept held t'
  captures : Scene.Captures held ⟨.session, some sink, errors, s⟩
    ⟨.session, some w'.sink, w'.errors, t'⟩ p.stdout p.stderr
  gathered : ∀ channel, sink = .channel channel →
    ∃ channel', w'.sink = .channel channel' ∧ channel'.content = channel.content ++ p.stdout

theorem runStage_performs (source : Inlet) (hacts : sh.programs.ActAs perform held s.files)
    (hkept : s.Kept held t)
    (hlaunch : sh.programs.launch (invocation s held c executable) s.files = .ok process)
    (hsound : Scene.Sound ⟨.session, some sink, errors, t⟩)
    (hheld : Scene.Holds held ⟨.session, some sink, errors, t⟩) :
    ∃ w' t', sh.runStage held (.external c executable) ⟨source, sink, errors⟩ t =
        (.finished (perform process (source.before.getD [])).status, w', t') ∧
      Performs held t (perform process (source.before.getD [])) sink errors w' t' := by
  have hstart : sh.programs.launch (invocation t held c executable) t.files = .ok process :=
    (launch_kept hacts hkept c executable).trans hlaunch
  obtain ⟨hperform, hleft⟩ := alone_of_actAs hacts hkept.files process (source.before.getD [])
  obtain ⟨w', t', ds, hrun, houtputs, hsteps, -⟩ :=
    sh.runProgram_outputs (w := ⟨source, sink, errors⟩) hstart (hsound.sink sink rfl).isOpen
      hsound.errors.isOpen
  have hmemory : t'.memory = t.memory := by
    have hsame := sh.memory_runProgram held c executable ⟨source, sink, errors⟩ t
    rwa [hrun] at hsame
  simp only [← hperform]
  generalize sh.programs.run [(process, {})] (source.before.getD []) t.files = effect at *
  -- whatever else is held, the program writes to its outlets only
  have hcaptures (places : List Place) (hplaces : ∀ place ∈ held, place ∈ places) :
      Scene.Captures places ⟨.session, some sink, errors, t⟩
        ⟨.session, some w'.sink, w'.errors, t'⟩ (effect.bytes .stdout) (effect.bytes .stderr) :=
    (houtputs.captures (hsound.feed (.bytes [])) (fun place h => hplaces place (hheld place h))
      (fun place _ => hleft place) hsteps).feed .session .session
  refine ⟨w', t', hrun, ⟨hmemory, fun place hplace => ?_⟩, hcaptures held fun _ => id, ?_⟩
  · have hothers := (hcaptures (place :: held) fun _ => List.mem_cons_of_mem place).others
    exact hothers place (List.mem_cons_self ..) (fun h => hplace (hheld place (.inl h)))
      fun h => hplace (hheld place (.inr h))
  · rintro channel rfl
    obtain ⟨channel', hsink, hcontent, -⟩ := hsteps.gather rfl
    rw [houtputs.written] at hcontent
    exact ⟨channel', Option.some.inj hsink, hcontent⟩

/-- A program in front of other stages has only its error output lead anywhere, and the next stage
is given what it makes of its input. -/
theorem front_performs (source : Inlet) (hacts : sh.programs.ActAs perform held s.files)
    (hkept : s.Kept held t)
    (hlaunch : sh.programs.launch (invocation s held c executable) s.files = .ok process)
    (hsound : Scene.Sound ⟨.session, some sink, errors, t⟩)
    (hheld : Scene.Holds held ⟨.session, some sink, errors, t⟩) :
    let p := perform process (source.before.getD [])
    ∃ w' t', sh.runStage held (.external c executable) ⟨source, .channel {}, errors⟩ t =
        (.finished p.status, w', t') ∧
      s.Kept held t' ∧ (Inlet.channel w'.sink.closedChannel).before = some p.stdout ∧
      Scene.Captures held ⟨.session, some sink, errors, t⟩ ⟨.session, some sink, w'.errors, t'⟩ []
        p.stderr := by
  intro p
  have hchannel : Scene.Sound ⟨.session, some (.channel {}), errors, t⟩ := by
    refine ⟨fun k hk => ?_, hsound.errors, nofun⟩
    rw [← Option.some.inj hk]
    exact ⟨rfl, nofun⟩
  have hplaces : Scene.Holds held ⟨.session, some (.channel {}), errors, t⟩ := by
    rintro place (h | h)
    · cases h
    · exact hheld place (.inr h)
  obtain ⟨w', t', hrun, hperforms⟩ :=
    runStage_performs source hacts hkept hlaunch hchannel hplaces
  obtain ⟨channel, hsink, hcontent⟩ := hperforms.gathered {} rfl
  refine ⟨w', t', hrun, hkept.trans hperforms.kept, ?_, ?_⟩
  · rw [before_closedChannel hsink, hcontent]
    rfl
  · exact hperforms.captures.aside rfl hsound fun place h => hheld place (.inl h)

/-- Programs in turn that are all started: the last gives the status and the output, and each its
error output, in order. -/
theorem runInTurn_performs (source : Inlet)
    (hacts : sh.programs.ActAs perform held s.files)
    (hlaunches : sh.Launches held s commands processes) (hne : commands ≠ [])
    (hkept : s.Kept held t) (hsound : Scene.Sound ⟨.session, some sink, errors, t⟩)
    (hheld : Scene.Holds held ⟨.session, some sink, errors, t⟩) (status : Int) :
    let run := sh.runInTurn held status source sink errors t (programStages commands)
    let performed := performances perform processes (source.before.getD [])
    ∃ last, performed.getLast? = some last ∧ run.ended = .returned last.status ∧
      run.started = commands.map (·.1) ∧
      Scene.Captures held ⟨.session, some sink, errors, t⟩
        ⟨.session, some run.sink, run.errors, run.state⟩ last.stdout
        (performed.flatMap Performance.stderr) := by
  -- the sink of the pipeline stays as it is while the programs in front write to channels
  induction hlaunches generalizing source errors t status with
  | nil => exact absurd rfl hne
  | @cons c executable process commands processes hlaunch hrest ih =>
    intro run performed
    cases hrest with
    | nil =>
      obtain ⟨w', t', hrun, hperforms⟩ :=
        runStage_performs source hacts hkept hlaunch hsound hheld
      have hlast : run = _ := runInTurn_last status hrun
      refine ⟨perform process (source.before.getD []), rfl, ?_, ?_, ?_⟩
      · rw [hlast]
      · rw [hlast]
        rfl
      · have herr : performed.flatMap Performance.stderr =
            (perform process (source.before.getD [])).stderr := List.append_nil _
        rw [hlast, herr]
        exact hperforms.captures
    | @cons follower path next others rest hnext hothers =>
      obtain ⟨w', t', hrun, hkept', hbefore, hfront⟩ :=
        front_performs source hacts hkept hlaunch hsound hheld
      have hstep : run = _ := runInTurn_next status hrun
      obtain ⟨last, hlast, hended, hstarted, hcaptures⟩ :=
        ih (.channel w'.sink.closedChannel) (by simp) hkept' hfront.sound
          (hfront.holds hheld) (perform process (source.before.getD [])).status
      rw [hbefore, Option.getD_some] at hlast hcaptures
      refine ⟨last, ?_, ?_, ?_, ?_⟩
      · rw [← hlast]
        exact List.getLast?_cons_cons
      · rw [hstep]
        exact hended
      · rw [hstep]
        exact congrArg (c :: ·) hstarted
      · rw [hstep]
        exact hfront.trans hsound hcaptures

theorem runInTurn_refused {cause : SystemError} (source : Inlet) (sink errors : Outlet)
    (hlaunch : sh.programs.launch (invocation t held c executable) t.files = .error (.system cause))
    (after : List (Command × Text)) (status : Int) :
    let run := sh.runInTurn held status source sink errors t
      (programStages ((c, executable) :: after))
    (run.ended, run.state) = t.conclude (notFoundMessage c.name) notFoundStatus ∧
      run.started = [] := by
  have hrun (w : Wiring) : sh.runStage held (.external c executable) w t =
      ((refused c t (.system cause)).1, w, (refused c t (.system cause)).2) :=
    sh.runProgram_refused hlaunch w
  have hends : ((refused c t (.system cause)).1.ended, (refused c t (.system cause)).2) =
      t.conclude (notFoundMessage c.name) notFoundStatus := by
    simp only [refused, State.conclude]
    cases t.report (notFoundMessage c.name) <;> rfl
  rw [← hends]
  rcases refused_cases c t (.system cause) with ⟨_, _, _, hrefused⟩ | ⟨failure, _, hrefused⟩ <;>
    cases after <;> simp [programStages, runInTurn, hrun, hrefused, Stage.started]

/-- Programs in turn up to one that is not started: those before it have written to their error
outputs, and then it is reported. -/
theorem runInTurn_unstarted {cause : SystemError} (source : Inlet)
    (hacts : sh.programs.ActAs perform held s.files)
    (hlaunches : sh.Launches held s before processes)
    (hrefused : sh.programs.launch (invocation s held c executable) s.files =
      .error (.system cause))
    (after : List (Command × Text)) (hkept : s.Kept held t)
    (hsound : Scene.Sound ⟨.session, some sink, errors, t⟩)
    (hheld : Scene.Holds held ⟨.session, some sink, errors, t⟩) (status : Int) :
    let run := sh.runInTurn held status source sink errors t
      (programStages (before ++ (c, executable) :: after))
    ∃ errors' d, (run.ended, run.state) = d.conclude (notFoundMessage c.name) notFoundStatus ∧
      run.started = before.map (·.1) ∧
      Scene.Captures held ⟨.session, some sink, errors, t⟩ ⟨.session, some sink, errors', d⟩ []
        ((performances perform processes (source.before.getD [])).flatMap Performance.stderr) := by
  induction hlaunches generalizing source errors t status with
  | nil =>
    have hlaunch := (launch_kept hacts hkept c executable).trans hrefused
    obtain ⟨hends, hstarted⟩ := runInTurn_refused source sink errors hlaunch after status
    exact ⟨errors, t, hends, hstarted, .refl held hsound⟩
  | @cons b path process before processes hlaunch hrest ih =>
    intro run
    obtain ⟨w', t', hrun, hkept', hbefore, hfront⟩ :=
      front_performs source hacts hkept hlaunch hsound hheld
    obtain ⟨follower, more, hmore⟩ : ∃ follower more,
        programStages (before ++ (c, executable) :: after) = follower :: more := by
      cases before with
      | nil => exact ⟨_, _, rfl⟩
      | cons next rest => exact ⟨_, _, rfl⟩
    have hstages : programStages ((b, path) :: before ++ (c, executable) :: after) =
        .external b path :: follower :: more := congrArg (Stage.external b path :: ·) hmore
    have hstep : run = _ := (congrArg _ hstages).trans (runInTurn_next status hrun)
    obtain ⟨errors', d, hends, hstarted, hcaptures⟩ :=
      ih (.channel w'.sink.closedChannel) hkept' hfront.sound (hfront.holds hheld)
        (perform process (source.before.getD [])).status
    rw [hmore] at hends hstarted
    rw [hbefore, Option.getD_some] at hcaptures
    refine ⟨errors', d, ?_, ?_, hfront.trans hsound hcaptures⟩
    · rw [hstep]
      exact hends
    · rw [hstep]
      exact congrArg (b :: ·) hstarted

/-! ### Together -/

theorem startAll_launches (sink errors : Outlet)
    (hlaunches : sh.Launches held s commands processes) (stage : Nat) (pipe : Option Nat) :
    let started := sh.startAll s held sink errors stage pipe commands
    started.processes.map (·.1) = processes ∧ started.refused = none := by
  induction hlaunches generalizing stage pipe with
  | nil => exact ⟨rfl, rfl⟩
  | cons hlaunch hrest ih =>
    obtain ⟨hprocesses, hrefused⟩ := ih (stage + 1) _
    rw [startAll, hlaunch]
    exact ⟨congrArg _ hprocesses, hrefused⟩

theorem startAll_unstarted {refusal : Refusal} (sink errors : Outlet)
    (hlaunches : sh.Launches held s before processes)
    (hrefused : sh.programs.launch (invocation s held c executable) s.files = .error refusal)
    (after : List (Command × Text)) (stage : Nat) (pipe : Option Nat) :
    let started := sh.startAll s held sink errors stage pipe (before ++ (c, executable) :: after)
    started.processes.map (·.1) = processes ∧ started.refused = some (c.name, refusal) := by
  induction hlaunches generalizing stage pipe with
  | nil =>
    intro started
    simp [started, startAll, hrefused]
  | cons hlaunch hrest ih =>
    obtain ⟨hprocesses, hstopped⟩ := ih (stage + 1) _
    rw [List.cons_append, startAll, hlaunch]
    exact ⟨congrArg _ hprocesses, hstopped⟩

theorem Launches.length_eq (h : sh.Launches held s commands processes) :
    commands.length = processes.length := by
  induction h with
  | nil => rfl
  | cons _ _ ih => exact congrArg (· + 1) ih

/-- Programs together that are all started: the last gives the status and the output, and each its
error output, among that of the others. -/
theorem runTogether_launches {last : Performance}
    (hacts : sh.programs.ActAs perform held s.files)
    (hlaunches : sh.Launches held s commands processes) (hstdin : s.session.stdin = [])
    (hleads : Leads held sink errors) (hsound : Scene.Sound ⟨.session, some sink, errors, s⟩)
    (hlast : (performances perform processes []).getLast? = some last) :
    let run := (sh.runTogether held commands sink errors s).1
    ∃ pieces, run.ended = .returned last.status ∧ run.started = commands.map (·.1) ∧
      s.Arrived run.state sink errors last.stdout (Piece.bytes .stderr pieces) ∧
      (∀ i p, (performances perform processes [])[i]? = some p →
        Piece.bytesOf i .stderr pieces = p.stderr) ∧
      ∀ piece ∈ pieces, piece.stage < commands.length := by
  obtain ⟨hprocesses, hrefused⟩ :=
    startAll_launches sink errors hlaunches 0 none
  obtain ⟨pieces, hside⟩ :=
    hacts.run (sh.startAll s held sink errors 0 none commands).processes [] s.files
      (sh.row_startAll s held sink errors commands).inLine fun _ _ => rfl
  have hjoined := congrArg List.length hprocesses
  rw [List.length_map, ← hlaunches.length_eq] at hjoined
  have hchained := (sh.row_startAll s held sink errors commands).chained (by simpa using hjoined)
  have hfed := hside held
  rw [← hstdin] at hfed
  obtain ⟨hended, hstarted, harrived⟩ := runTogether_performs hleads hsound hrefused hfed
    (by rw [hprocesses, hstdin, hlast])
  refine ⟨pieces, hended, hstarted, harrived, fun i p hp => ?_, ?_⟩
  · rw [← hprocesses] at hp
    exact ((hside held).of_chained hchained hp).2.1
  · rw [← hjoined]
    exact (hside held).stages

/-- Programs together up to one that is not started: it is reported when the pieces of those before
it have been passed on, none of which has reached the sink. -/
theorem runTogether_unstarted {cause : SystemError}
    (hacts : sh.programs.ActAs perform held s.files)
    (hlaunches : sh.Launches held s before processes)
    (hrefused : sh.programs.launch (invocation s held c executable) s.files =
      .error (.system cause))
    (after : List (Command × Text)) (hstdin : s.session.stdin = [])
    (hleads : Leads held sink errors)
    (hsound : Scene.Sound ⟨.session, some sink, errors, s⟩) :
    let run := (sh.runTogether held (before ++ (c, executable) :: after) sink errors s).1
    ∃ pieces d, (run.ended, run.state) = d.conclude (notFoundMessage c.name) notFoundStatus ∧
      run.started = before.map (·.1) ∧
      s.Arrived d sink errors [] (Piece.bytes .stderr pieces) ∧
      ∀ piece ∈ pieces, piece.stage < before.length := by
  obtain ⟨hprocesses, hstopped⟩ :=
    startAll_unstarted sink errors hlaunches hrefused after 0 none
  obtain ⟨pieces, hside⟩ := hacts.run
    (sh.startAll s held sink errors 0 none (before ++ (c, executable) :: after)).processes []
    s.files (sh.row_startAll s held sink errors _).inLine fun _ _ => rfl
  have hjoined := congrArg List.length hprocesses
  rw [List.length_map, ← hlaunches.length_eq] at hjoined
  obtain ⟨d, hends, hstarted, harrived⟩ :=
    runTogether_refused hleads hsound hstdin hstopped (hside held)
  refine ⟨pieces, d, hends, ?_, harrived, ?_⟩
  · rw [hstarted, hjoined, List.take_left]
  · rw [← hjoined]
    exact (hside held).stages

/-! ### The two ways compared -/

/-- If all programs are started, `_run_shell_group` and `_run_mixed` return the status of the last,
deliver its output to the sink, and the error output of each to the error outlet. If one is not
started, both have started those before it and none after it, nothing has reached the sink, and both
report it and return 127; if its name has no encoding, both raise instead. -/
theorem together_agrees_inTurn (hne : commands ≠ []) (hstdin : s.session.stdin = [])
    (hsink : sink = .session .stdout ∨ ∃ handle, sink = .file handle)
    (herrors : errors = .session .stderr ∨ ∃ handle, errors = .file handle)
    (hsound : Scene.Sound ⟨.session, some sink, errors, s⟩)
    (hacts : sh.programs.ActAs perform (heldPlaces sink errors) s.files) :
    let held := heldPlaces sink errors
    let together := (sh.runTogether held commands sink errors s).1
    let inTurn := sh.runInTurn held 0 .session sink errors s (programStages commands)
    (∀ processes, sh.Launches held s commands processes →
      let performed := performances perform processes []
      ∃ last pieces, performed.getLast? = some last ∧
        (together.ended = .returned last.status ∧ inTurn.ended = .returned last.status) ∧
        (together.started = commands.map (·.1) ∧ inTurn.started = commands.map (·.1)) ∧
        s.Arrived inTurn.state sink errors last.stdout (performed.flatMap Performance.stderr) ∧
        s.Arrived together.state sink errors last.stdout (Piece.bytes .stderr pieces) ∧
        (∀ i p, performed[i]? = some p → Piece.bytesOf i .stderr pieces = p.stderr) ∧
        ∀ piece ∈ pieces, piece.stage < commands.length) ∧
      ∀ before c executable after processes cause,
        commands = before ++ (c, executable) :: after → sh.Launches held s before processes →
        sh.programs.launch (invocation s held c executable) s.files = .error (.system cause) →
        (together.started = before.map (·.1) ∧ inTurn.started = before.map (·.1)) ∧
          ∃ pieces d d', s.Arrived d sink errors [] (Piece.bytes .stderr pieces) ∧
            (∀ piece ∈ pieces, piece.stage < before.length) ∧
            s.Arrived d' sink errors []
              ((performances perform processes []).flatMap Performance.stderr) ∧
            (c.name.IsWhole →
              let report := (notFoundMessage c.name).lineBytes
              (together.ended = .returned notFoundStatus ∧
                inTurn.ended = .returned notFoundStatus) ∧
                together.state = d.emit .stderr report ∧ inTurn.state = d'.emit .stderr report) ∧
            (¬c.name.IsWhole → ∃ e,
              (together.ended = .raised (.unencodable e) ∧
                inTurn.ended = .raised (.unencodable e)) ∧
                together.state = d ∧ inTurn.state = d') := by
  intro held together inTurn
  have hheld : Scene.Holds held ⟨.session, some sink, errors, s⟩ :=
    holds_heldPlaces .session sink errors s
  have hleads : Leads held sink errors := ⟨place_mem_heldPlaces, hsink, herrors⟩
  constructor
  · intro processes hlaunches performed
    obtain ⟨last, hlast, hended, hstarted, hcaptures⟩ :=
      runInTurn_performs .session hacts hlaunches hne (.refl held s) hsound hheld 0
    obtain ⟨pieces, hended', hstarted', harrived, heach, hstages⟩ :=
      runTogether_launches hacts hlaunches hstdin hleads hsound hlast
    exact ⟨last, pieces, hlast, ⟨hended', hended⟩, ⟨hstarted', hstarted⟩,
      hcaptures.arrived hsound hheld, harrived, heach, hstages⟩
  · rintro before c executable after processes cause rfl hlaunches hrefused
    obtain ⟨errors', d', hends', hstarted', hcaptures⟩ := runInTurn_unstarted
      .session hacts hlaunches hrefused after (.refl held s) hsound hheld 0
    obtain ⟨pieces, d, hends, hstarted, harrived, hstages⟩ :=
      runTogether_unstarted hacts hlaunches hrefused after hstdin hleads hsound
    refine ⟨⟨hstarted, hstarted'⟩, pieces, d, d', harrived, hstages,
      hcaptures.arrived hsound hheld, fun hname => ?_, fun hname => ?_⟩
    · have hmessage := State.isWhole_notFoundMessage.2 hname
      rw [d.conclude_of_isWhole hmessage] at hends
      rw [d'.conclude_of_isWhole hmessage] at hends'
      obtain ⟨hended, hstate⟩ := Prod.mk.inj hends
      obtain ⟨hended', hstate'⟩ := Prod.mk.inj hends'
      exact ⟨⟨hended, hended'⟩, hstate, hstate'⟩
    · have hmessage := mt State.isWhole_notFoundMessage.1 hname
      obtain ⟨e, he⟩ := State.conclude_of_not_isWhole hmessage notFoundStatus
      rw [he] at hends hends'
      obtain ⟨hended, hstate⟩ := Prod.mk.inj hends
      obtain ⟨hended', hstate'⟩ := Prod.mk.inj hends'
      exact ⟨e, ⟨hended, hended'⟩, hstate, hstate'⟩

/-! ### Two runs of either kind -/

theorem scene_sound_session (s : State) :
    Scene.Sound ⟨.session, some (.session .stdout), .session .stderr, s⟩ := by
  refine ⟨fun k hk => ?_, Outlet.sound_session .stderr s, fun t ht he => ?_⟩
  · rw [← Option.some.inj hk]
    exact Outlet.sound_session .stdout s
  · rw [← Option.some.inj ht] at he
    cases he

/-- A program that adds a byte to its input and marks its error output. -/
def appended (_ : Unit) (input : Bytes) : Performance := ⟨input ++ [0x61], [0x21], input.length⟩

/-- A shell on a system where one path leads to that program, and no other can be run. -/
def appending : Shell where
  base := [.char '/']
  builtins := []
  programs := .ofFunctions
    (fun i => if i.executable = "/append".runes then .ok () else .error .notRunnable) appended

def idle : State := { session := { cwd := [.char '/'] }, files := {} }

def append : Command × Text := (⟨"append".runes, []⟩, "/append".runes)

def gone : Command × Text := (⟨"gone".runes, []⟩, "/gone".runes)

theorem together_agrees_inTurn_appending :
    let held := heldPlaces (.session .stdout) (.session .stderr)
    let together (commands : List (Command × Text)) :=
      (appending.runTogether held commands (.session .stdout) (.session .stderr) idle).1
    let inTurn (commands : List (Command × Text)) :=
      appending.runInTurn held 0 .session (.session .stdout) (.session .stderr) idle
        (programStages commands)
    (∀ run ∈ [together [append, append], inTurn [append, append]],
      run.ended = .returned 1 ∧ run.state.output .stdout = [0x61, 0x61]) ∧
      ∀ run ∈ [together [append, gone, append], inTurn [append, gone, append]],
        run.ended = .returned notFoundStatus ∧ run.started = [append.1] := by
  intro held together inTurn
  have hsound := scene_sound_session idle
  have hacts : appending.programs.ActAs appended held idle.files :=
    Programs.actAs_ofFunctions _ appended held idle.files
  have hone : appending.Launches held idle [append] [()] := .cons rfl .nil
  have htwo : appending.Launches held idle [append, append] [(), ()] := .cons rfl hone
  have hrefused : appending.programs.launch (invocation idle held gone.1 gone.2) idle.files =
      .error (.system .notRunnable) := rfl
  constructor
  · obtain ⟨hall, -⟩ := together_agrees_inTurn (List.cons_ne_nil append [append]) rfl (.inl rfl)
      (.inl rfl) hsound hacts
    obtain ⟨last, pieces, hlast, ⟨hended, hended'⟩, -, harrived', harrived, -⟩ := hall _ htwo
    obtain rfl : ⟨[0x61, 0x61], [0x21], 1⟩ = last := Option.some.inj hlast
    simp only [together, inTurn, held, List.forall_mem_cons]
    exact ⟨⟨hended, harrived.atSink⟩, ⟨hended', harrived'.atSink⟩, List.forall_mem_nil _⟩
  · obtain ⟨-, hbroken⟩ := together_agrees_inTurn (List.cons_ne_nil append [gone, append]) rfl
      (.inl rfl) (.inl rfl) hsound hacts
    obtain ⟨⟨hstarted, hstarted'⟩, pieces, d, d', -, -, -, hwhole, -⟩ :=
      hbroken [append] gone.1 gone.2 [append] [()] .notRunnable rfl hone hrefused
    obtain ⟨⟨hended, hended'⟩, -⟩ := hwhole (by decide)
    simp only [together, inTurn, held, List.forall_mem_cons]
    exact ⟨⟨hended, hstarted⟩, ⟨hended', hstarted'⟩, List.forall_mem_nil _⟩

def misnamed : State where
  session := { cwd := "/".runes }
  files :=
    { entries := [(.named ["bin".runes], .directory Mode.directory),
        (.named ["bin".runes, [.lone 0x4ff]], .file {} Mode.program)] }

/-- A program that cannot be run, and whose name is half of a surrogate pair: neither way reports
it, as the report has no encoding. -/
theorem not_reported_of_notRunnable :
    let held := heldPlaces (.session .stdout) (.session .stderr)
    let c : Command := ⟨"bin/".runes ++ [.lone 0x4ff], []⟩
    let executable := "/".runes ++ c.name
    let together := (appending.runTogether held [(c, executable)] (.session .stdout)
      (.session .stderr) misnamed).1
    let inTurn := appending.runInTurn held 0 .session (.session .stdout) (.session .stderr) misnamed
      (programStages [(c, executable)])
    appending.program? misnamed c.name = some executable ∧
      appending.programs.launch (invocation misnamed held c executable) misnamed.files =
        .error (.system .notRunnable) ∧
      ∀ run ∈ [together, inTurn], run.ended = .raised (.unencodable ⟨4, 0x4ff, 1⟩) ∧
        run.ended ≠ .returned notFoundStatus ∧ run.state.output .stderr = [] := by
  refine ⟨?_, rfl, ?_⟩
  · decide +kernel
  · decide +kernel

end Shell
end PipelineShell
