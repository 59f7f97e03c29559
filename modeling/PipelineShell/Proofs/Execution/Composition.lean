import PipelineShell.Builtin.Standard
import PipelineShell.Proofs.Execution.Stage

/-!
# Stages composed from left to right

A run of `_run_mixed` in which every stage returns does what the stages do one after another, each
with the output of the one before as its input.
-/

namespace PipelineShell
open Scene (Steps)

/-- A stage that has been run: what it did, and the status with which it ended. -/
structure StageTurn where
  stage : Stage
  deeds : List Deed
  status : Int

namespace StageTurn

def received (t : StageTurn) : Bytes := t.deeds.flatMap Deed.received

def written (t : StageTurn) : Bytes := t.deeds.flatMap Deed.written

def complained (t : StageTurn) : Bytes := t.deeds.flatMap Deed.complained

/-- What the stage has taken from the input of the session if it came first. A program takes
nothing. -/
def taken (t : StageTurn) : Bytes := if t.stage.isBuiltin then t.received else []

end StageTurn

namespace Shell

/-- What stages do one after another. The first comes behind a stage that has written `before`, if
there is one; each of the others is fed what the stage before it has written. The output of the
last goes to `sink`, the error output of all to `errors`. -/
inductive Course (sh : Shell) (held : List Place) :
    Option Bytes → Outlet → Outlet → State → List StageTurn → Outlet → Outlet → State → Prop
  | last {before : Option Bytes} {t : StageTurn} {feed : Feed} {sink sink' errors errors' : Outlet}
      {s s' : State} (does : t.stage.Does sh held s t.deeds t.status)
      (steps : Steps sh.base sh.names t.deeds ⟨t.stage.feed before, some sink, errors, s⟩
        ⟨feed, some sink', errors', s'⟩) :
      Course sh held before sink errors s [t] sink' errors' s'
  | next {before : Option Bytes} {t : StageTurn} {turns : List StageTurn} {feed : Feed}
      {sink sink' errors errors₁ errors' : Outlet} {s s₁ s' : State}
      (does : t.stage.Does sh held s t.deeds t.status)
      (steps : Steps sh.base sh.names t.deeds ⟨t.stage.feed before, none, errors, s⟩
        ⟨feed, none, errors₁, s₁⟩)
      (rest : Course sh held (some t.written) sink errors₁ s₁ turns sink' errors' s') :
      Course sh held before sink errors s (t :: turns) sink' errors' s'

/-- Every stage is started and comes to its end with a status when the stages are run in turn. -/
inductive AllReturn (sh : Shell) (held : List Place) :
    Inlet → Outlet → Outlet → State → List Stage → Prop
  | last {source : Inlet} {sink errors : Outlet} {s s' : State} {stage : Stage} {status : Int}
      {w : Wiring}
      (run : sh.runStage held stage ⟨source, sink, errors⟩ s = (.finished status, w, s')) :
      AllReturn sh held source sink errors s [stage]
  | next {source : Inlet} {sink errors : Outlet} {s s' : State} {stage follower : Stage}
      {rest : List Stage} {status : Int} {w : Wiring}
      (run : sh.runStage held stage ⟨source, .channel {}, errors⟩ s = (.finished status, w, s'))
      (others : AllReturn sh held (.channel w.sink.closedChannel) sink w.errors s'
        (follower :: rest)) :
      AllReturn sh held source sink errors s (stage :: follower :: rest)

/-- A run in turn is made of the turns of the stages. -/
structure Composes (sh : Shell) (held : List Place) (before : Option Bytes) (sink errors : Outlet)
    (s : State) (stages : List Stage) (turns : List StageTurn) (run : Run) : Prop where
  stages_eq : turns.map StageTurn.stage = stages
  started : run.started = stages.map Stage.command
  course : sh.Course held before sink errors s turns run.sink run.errors run.state
  ended : ∃ t, turns.getLast? = some t ∧ run.ended = .returned t.status
  closed : ∀ c ∈ run.channels, c.closed = true

variable {sh : Shell} {held : List Place} {before : Option Bytes} {source : Inlet}
  {sink sink' errors errors' : Outlet} {s s' : State} {stages : List Stage} {turns : List StageTurn}

/-! ### What a course comes to -/

theorem feed_ne_session (stage : Stage) (data : Bytes) : stage.feed (some data) ≠ .session := by
  cases stage <;> simp [Stage.feed]

theorem input_feed (stage : Stage) (data : Bytes) (sink : Option Outlet) (errors : Outlet)
    (s : State) : (Scene.mk (stage.feed (some data)) sink errors s).input = data := by
  cases stage <;> rfl

theorem Course.stdin_behind {data : Bytes}
    (h : sh.Course held (some data) sink errors s turns sink' errors' s') :
    s'.session.stdin = s.session.stdin := by
  generalize hb : some data = before at h
  induction h generalizing data with
  | @last before t feed sink sink' errors errors' s s' does steps =>
    rw [← hb] at steps
    exact steps.stdin (feed_ne_session t.stage data)
  | @next before t turns feed sink sink' errors errors₁ errors' s s₁ s' does steps _ ih =>
    rw [← hb] at steps
    rw [ih rfl]
    exact steps.stdin (feed_ne_session t.stage data)

theorem stdin_first {t : StageTurn} {feed : Feed} {out out' : Option Outlet}
    (h : Steps sh.base sh.names t.deeds ⟨t.stage.feed none, out, errors, s⟩
      ⟨feed, out', errors', s'⟩) :
    t.taken ++ s'.session.stdin = s.session.stdin := by
  unfold StageTurn.taken
  cases hst : t.stage with
  | builtin c behaviour =>
    rw [hst] at h
    have hfeed : feed = .session := h.feed_session_iff.2 rfl
    rw [hfeed] at h
    exact h.input
  | external c executable =>
    rw [hst] at h
    exact h.stdin (by simp [Stage.feed])

/-- Only the first stage takes anything from the input of the session, and only if it is a
builtin. -/
theorem Course.stdin (h : sh.Course held none sink errors s turns sink' errors' s')
    {t : StageTurn} (ht : turns.head? = some t) :
    t.taken ++ s'.session.stdin = s.session.stdin := by
  cases h with
  | last does steps =>
    cases ht
    exact stdin_first steps
  | next does steps rest =>
    cases ht
    rw [rest.stdin_behind]
    exact stdin_first steps

theorem Course.received_head {data : Bytes}
    (h : sh.Course held (some data) sink errors s turns sink' errors' s') {t : StageTurn}
    (ht : turns.head? = some t) : t.received <+: data := by
  cases h with
  | @last _ t feed _ _ _ errors' _ s' does steps =>
    cases ht
    exact ⟨_, steps.input.trans (input_feed t.stage data _ _ _)⟩
  | @next _ t turns feed _ _ _ errors₁ _ _ s₁ _ does steps rest =>
    cases ht
    exact ⟨_, steps.input.trans (input_feed t.stage data _ _ _)⟩

theorem Course.handed (h : sh.Course held before sink errors s turns sink' errors' s')
    {done rest : List StageTurn} {t follower : StageTurn}
    (ht : turns = done ++ t :: follower :: rest) :
    follower.received <+: t.written := by
  induction h generalizing done with
  | last does steps => simp [List.singleton_eq_append_iff] at ht
  | next does steps course ih =>
    cases done with
    | nil =>
      obtain ⟨rfl, rfl⟩ := List.cons.inj ht
      exact course.received_head rfl
    | cons u done =>
      obtain ⟨rfl, rfl⟩ := List.cons.inj ht
      exact ih rfl

theorem Course.output_sink (h : sh.Course held before sink errors s turns sink' errors' s')
    {o : Output} (herrors : errors ≠ .session o) {t : StageTurn} (ht : turns.getLast? = some t) :
    s'.output o = s.output o ++ if sink = .session o then t.written else [] := by
  induction h with
  | last does steps =>
    cases ht
    rw [steps.output o, Scene.flatMap_emitted_written herrors]
    simp only [Option.some.injEq]
    rfl
  | next does steps rest ih =>
    have hout := steps.output o
    rw [Scene.flatMap_emitted_written herrors, if_neg (by simp), List.append_nil] at hout
    have hlast := ih (mt (steps.errors_session_iff o).1 herrors)
    cases rest with
    | last _ _ => rw [hlast ht, hout]
    | next _ _ _ => rw [hlast ht, hout]

theorem Course.output_errors (h : sh.Course held before sink errors s turns sink' errors' s')
    {o : Output} (hsink : sink ≠ .session o) :
    s'.output o =
      s.output o ++ if errors = .session o then turns.flatMap StageTurn.complained else [] := by
  induction h with
  | last does steps =>
    rw [steps.output o, Scene.flatMap_emitted_complained (by simpa using hsink)]
    simp only [List.flatMap_cons, List.flatMap_nil, List.append_nil]
    rfl
  | next does steps rest ih =>
    rw [ih hsink, steps.output o, Scene.flatMap_emitted_complained (by simp)]
    simp only [steps.errors_session_iff o, List.append_assoc]
    split
    · rfl
    · rfl

/-! ### A run follows a course -/

theorem before_closedChannel {c : Channel} {w : Wiring} (h : w.sink = .channel c) :
    (Inlet.channel w.sink.closedChannel).before = some c.content := by
  rw [h]
  rfl

theorem closed_closedChannel (sink : Outlet) : sink.closedChannel.closed = true := by
  cases sink <;> rfl

theorem runInTurn_last {stage : Stage} {st : Int} {w : Wiring} (status : Int)
    (h : sh.runStage held stage ⟨source, sink, errors⟩ s = (.finished st, w, s')) :
    sh.runInTurn held status source sink errors s [stage] =
      { ended := .returned st, sink := w.sink, errors := w.errors, channels := w.source.channels,
        started := [stage.command], state := s' } := by
  rw [runInTurn, h]
  cases stage <;> rfl

theorem runInTurn_next {stage follower : Stage} {rest : List Stage} {st : Int} {w : Wiring}
    (status : Int)
    (h : sh.runStage held stage ⟨source, .channel {}, errors⟩ s = (.finished st, w, s')) :
    sh.runInTurn held status source sink errors s (stage :: follower :: rest) =
      let run := sh.runInTurn held st (.channel w.sink.closedChannel) sink w.errors s'
        (follower :: rest)
      { run with
        channels := w.source.channels ++ run.channels
        started := stage.command :: run.started } := by
  rw [runInTurn, h]

/-- Stages that all come to an end make their turns, wherever the first of them reads from. -/
theorem composes_of_allReturn (h : sh.AllReturn held source sink errors s stages)
    (hsource : source.Finished) (hsink : sink.isOpen = true) (herrors : errors.isOpen = true)
    (status : Int) :
    ∃ turns, sh.Composes held source.before sink errors s stages turns
      (sh.runInTurn held status source sink errors s stages) := by
  induction h generalizing status with
  | @last source sink errors s s' stage st w hrun =>
    obtain ⟨ds, feed, hdoes, hsteps, hfin⟩ := sh.runStage_does hrun hsink herrors
    rw [runInTurn_last status hrun]
    exact ⟨[⟨stage, ds, st⟩], rfl, rfl, .last hdoes hsteps, ⟨_, rfl, rfl⟩, hfin hsource⟩
  | @next source sink errors s s' stage follower rest st w hrun _ ih =>
    obtain ⟨ds, feed, hdoes, hsteps, hfin⟩ := sh.runStage_does hrun rfl herrors
    -- what the stage has written is all that is in the channel
    obtain ⟨c, hc, hcontent, hhanded⟩ := hsteps.gather rfl
    have hw : w.sink = .channel c := Option.some.inj hc
    have hclosed : (Inlet.channel w.sink.closedChannel).Finished := by
      intro d hd
      rw [List.mem_singleton.1 hd]
      exact closed_closedChannel w.sink
    obtain ⟨turns, hturns⟩ := ih hclosed hsink (hsteps.errors_isOpen herrors) st
    rw [before_closedChannel hw, hcontent] at hturns
    rw [runInTurn_next status hrun]
    refine ⟨⟨stage, ds, st⟩ :: turns, ?_, ?_, .next hdoes hhanded hturns.course, ?_, ?_⟩
    · rw [List.map_cons, hturns.stages_eq]
    · rw [List.map_cons, ← hturns.started]
    · obtain ⟨t, hlast, hended⟩ := hturns.ended
      exact ⟨t, by rw [List.getLast?_cons, hlast]; rfl, hended⟩
    · intro d hd
      cases List.mem_append.1 hd with
      | inl hd => exact hfin hsource d hd
      | inr hd => exact hturns.closed d hd

/-- If every stage returns, `_run_mixed` composes the stages from left to right: each is fed with
all that the one before has written, the first with the input of the session if it is a builtin and
with nothing else. Only the last writes to the sink, all write to the error output in order, and the
status is that of the last. -/
theorem runInTurn_composes (h : sh.AllReturn held .session sink errors s stages)
    (hsink : sink.isOpen = true) (herrors : errors.isOpen = true) (status : Int) :
    let run := sh.runInTurn held status .session sink errors s stages
    ∃ turns : List StageTurn,
      sh.Composes held none sink errors s stages turns run ∧
      (∀ done t follower rest, turns = done ++ t :: follower :: rest →
        follower.received <+: t.written) ∧
      (∀ t, turns.head? = some t → t.taken ++ run.state.session.stdin = s.session.stdin) ∧
      (∀ o t, errors ≠ .session o → turns.getLast? = some t →
        run.state.output o = s.output o ++ if sink = .session o then t.written else []) ∧
      (∀ o, sink ≠ .session o → run.state.output o =
        s.output o ++ if errors = .session o then turns.flatMap StageTurn.complained else []) := by
  intro run
  have hsource : Inlet.session.Finished := fun c hc => nomatch hc
  obtain ⟨turns, hturns⟩ := composes_of_allReturn h hsource hsink herrors status
  have hcourse := hturns.course
  refine ⟨turns, hturns, ?_, ?_, ?_, ?_⟩
  · exact fun done t follower rest ht => hcourse.handed ht
  · exact fun t ht => hcourse.stdin ht
  · exact fun o t ho ht => hcourse.output_sink ho ht
  · exact fun o ho => hcourse.output_errors ho

/-! ### A pipeline of three stages -/

/-- A shell on a system whose programs copy what they read and put a mark on the error output. -/
def copying : Shell where
  base := [.char '/']
  builtins := []
  programs :=
    { Process := Unit
      start _ _ := .ok ()
      run _ input files :=
        { output := [⟨0, .stdout, input⟩, ⟨0, .stderr, [0x21]⟩], statuses := [3], files } }

/-- A builtin that writes its whole input with ASCII letters in upper case. -/
def upcat : Builtin := fun _ =>
  .read none fun data =>
    .write (data.map fun b => if 0x61 ≤ b && b ≤ 0x7a then b - 0x20 else b) (.done 0)

def waiting : State := { session := { cwd := [.char '/'], stdin := [0x31] }, files := {} }

def betweenBuiltins : List Stage :=
  [.builtin ⟨"echo".runes, ["hi".runes]⟩ Builtin.echo,
    .external ⟨"copy".runes, []⟩ "/copy".runes,
    .builtin ⟨"upcat".runes, []⟩ upcat]

theorem runInTurn_composes_betweenBuiltins :
    let run := copying.runInTurn [] 0 .session (.session .stdout) (.session .stderr) waiting
      betweenBuiltins
    copying.AllReturn [] .session (.session .stdout) (.session .stderr) waiting betweenBuiltins ∧
      (run.ended = .returned 0 ∧ run.state.session.stdin = [0x31] ∧
        run.state.output .stdout = [0x48, 0x49, 0x0a] ∧ run.state.output .stderr = [0x21]) ∧
      ∃ turns, copying.Composes [] none (.session .stdout) (.session .stderr) waiting
        betweenBuiltins turns run := by
  intro run
  have hecho : copying.runStage [] (.builtin ⟨"echo".runes, ["hi".runes]⟩ Builtin.echo)
      ⟨.session, .channel {}, .session .stderr⟩ waiting =
      (.finished 0, ⟨.session, .channel { chunks := [[0x68, 0x69, 0x0a]] }, .session .stderr⟩,
        waiting) := rfl
  have hcopy : copying.runStage [] (.external ⟨"copy".runes, []⟩ "/copy".runes)
      ⟨.channel { chunks := [[0x68, 0x69, 0x0a]], closed := true }, .channel {},
        .session .stderr⟩ waiting =
      (.finished 3, ⟨.channel { closed := true },
        .channel { chunks := [[0x68, 0x69, 0x0a]] }, .session .stderr⟩,
        waiting.emit .stderr [0x21]) := by
    have hlaunch : copying.programs.launch
        (invocation waiting [] ⟨"copy".runes, []⟩ "/copy".runes) waiting.files = .ok () := rfl
    rw [runStage, copying.runProgram_launched hlaunch]
    simp only [copying]
    rw [Wiring.deliver_few _ (by decide) (by decide) (by decide) rfl rfl,
      Wiring.deliver_few _ (by decide) (by decide) (by decide) rfl rfl]
    rfl
  have hupcat : copying.runStage [] (.builtin ⟨"upcat".runes, []⟩ upcat)
      ⟨.channel { chunks := [[0x68, 0x69, 0x0a]], closed := true }, .session .stdout,
        .session .stderr⟩ (waiting.emit .stderr [0x21]) =
      (.finished 0, ⟨.channel { closed := true }, .session .stdout, .session .stderr⟩,
        (waiting.emit .stderr [0x21]).emit .stdout [0x48, 0x49, 0x0a]) := rfl
  have hreturn : copying.AllReturn [] .session (.session .stdout) (.session .stderr) waiting
      betweenBuiltins := .next hecho (.next hcopy (.last hupcat))
  have hrun : run = _ := runInTurn_next 0 hecho
  rw [Outlet.closedChannel, Channel.close, runInTurn_next 0 hcopy, Outlet.closedChannel,
    Channel.close, runInTurn_last 3 hupcat] at hrun
  refine ⟨hreturn, ?_, ?_⟩
  · rw [hrun]
    exact ⟨rfl, rfl, rfl, rfl⟩
  · obtain ⟨turns, hturns, -⟩ := runInTurn_composes hreturn rfl rfl 0
    exact ⟨turns, hturns⟩

end Shell
end PipelineShell
