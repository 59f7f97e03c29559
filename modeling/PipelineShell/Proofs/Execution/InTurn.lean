import PipelineShell.Proofs.Execution.Trace

/-!
# Stages in turn and their runs

The runs of the stages in `_run_mixed` as a relation, whose constructors follow its loop.
-/

namespace PipelineShell
open Scene (Steps)

/-! ### What a stage leaves, however it ends -/

namespace Behaviour

theorem channels_read (source : Inlet) (size : Option Nat) (s : State) :
    (source.read size s).2.1.channels.length = source.channels.length := by
  cases source <;> cases size <;> rfl

theorem channels_run (base : Text) (builtins : List Text) (b : Behaviour) (w : Wiring) (s : State) :
    (b.run base builtins w s).2.1.source.channels.length = w.source.channels.length := by
  induction b generalizing w s with
  | done status => rfl
  | fail failure => rfl
  | read size next ih =>
    obtain ⟨source, sink, errors⟩ := w
    exact (ih _ _ _).trans (channels_read source size s)
  | write data next ih =>
    rw [run]
    cases w.sink.write data s with
    | error refusal => rfl
    | ok out => exact ih _ _
  | complain data next ih =>
    rw [run]
    cases w.errors.write data s with
    | error refusal => rfl
    | ok out => exact ih _ _
  | look next ih => exact ih _ _ _
  | enter directory next ih => exact ih _ _
  | remember entries next ih => exact ih _ _

end Behaviour

namespace StageRun
variable {sh : Shell} {held : List Place} {r : StageRun}

/-- The run is the one that the shell makes of the stage. -/
def Made (sh : Shell) (held : List Place) (r : StageRun) : Prop :=
  sh.runStage held r.stage r.wiring r.before = (r.ended, r.left, r.after)

/-- What a stage leaves behind however it ends: the inlet and the error outlet are as fit for use as
before, and the output of the session gains nothing unless the stage is wired to it. -/
structure Leaves (r : StageRun) : Prop where
  errors_isOpen : r.left.errors.isOpen = true
  errors_session (o : Output) : r.left.errors = .session o ↔ r.wiring.errors = .session o
  finished : r.wiring.source.Finished → r.left.source.Finished
  channels : r.left.source.channels.length = r.wiring.source.channels.length
  stdout : r.wiring.sink ≠ .session .stdout → r.wiring.errors ≠ .session .stdout →
    r.after.output .stdout = r.before.output .stdout

theorem Leaves.of_refused (herrors : r.wiring.errors.isOpen = true) (hleft : r.left = r.wiring)
    (hafter : r.after.output .stdout = r.before.output .stdout) : r.Leaves where
  errors_isOpen := by rw [hleft]; exact herrors
  errors_session o := by rw [hleft]
  finished := by rw [hleft]; exact id
  channels := by rw [hleft]
  stdout _ _ := hafter

theorem stdout_of_steps {base : Text} {builtins : List Text} {ds : List Deed} {a b : Scene}
    (h : Steps base builtins ds a b) (hsink : a.sink ≠ some (.session .stdout))
    (herrors : a.errors ≠ .session .stdout) :
    b.state.output .stdout = a.state.output .stdout := by
  rw [h.output, Scene.flatMap_emitted_written herrors, if_neg hsink, List.append_nil]

theorem Made.leaves (h : r.Made sh held) (hsink : r.wiring.sink.isOpen = true)
    (herrors : r.wiring.errors.isOpen = true) : r.Leaves := by
  unfold Made at h
  cases hstage : r.stage with
  | builtin c b =>
    rw [hstage, Shell.runStage] at h
    rcases hrun : (b c.args).run sh.base sh.names r.wiring r.before with ⟨ended, left, after⟩
    rw [hrun] at h
    simp only [Prod.mk.injEq] at h
    obtain ⟨-, rfl, rfl⟩ := h
    obtain ⟨hsteps, hfin⟩ := (b c.args).steps_deeds hrun
    have hchannels := (b c.args).channels_run sh.base sh.names r.wiring r.before
    rw [hrun] at hchannels
    exact ⟨hsteps.errors_isOpen herrors, hsteps.errors_session_iff, hfin, hchannels,
      fun hs he => stdout_of_steps hsteps (fun h => hs (Option.some.inj h)) he⟩
  | external c executable =>
    rw [hstage, Shell.runStage] at h
    cases hl : sh.programs.launch (Shell.invocation r.before held c executable) r.before.files with
    | error refusal =>
      rw [sh.runProgram_refused hl] at h
      simp only [Prod.mk.injEq] at h
      obtain ⟨-, hleft, hafter⟩ := h
      refine .of_refused herrors hleft.symm ?_
      rw [← hafter]
      rcases Shell.refused_cases c r.before refusal with ⟨_, _, _, hrefused⟩ | ⟨_, _, hrefused⟩
      · rw [hrefused]
        simp [State.output_emit]
      · rw [hrefused]
    | ok process =>
      obtain ⟨w', s', ds, hrun, -, hsteps, hsource⟩ := sh.runProgram_outputs hl hsink herrors
      rw [hrun] at h
      simp only [Prod.mk.injEq] at h
      obtain ⟨-, rfl, rfl⟩ := h
      refine ⟨hsteps.errors_isOpen herrors, hsteps.errors_session_iff, ?_, ?_, fun hs he =>
        stdout_of_steps hsteps (fun h => hs (Option.some.inj h)) he⟩
      · rw [hsource]
        exact Shell.drained_finished
      · rw [hsource]
        cases r.wiring.source <;> rfl

end StageRun

/-! ### Stages in turn -/

/-- How stages in turn lead to their runs and to what becomes of them: a stage that is not the last
one has a channel of its own to write to, and those behind it are run only if it has ended with a
status. -/
inductive Shell.InTurn (sh : Shell) (held : List Place) :
    Inlet → Outlet → Outlet → State → List Stage → List StageRun → Run → Prop
  | last {source : Inlet} {sink errors : Outlet} {s : State} {stage : Stage} {r : StageRun}
      (run : sh.stageRun held stage ⟨source, sink, errors⟩ s = r) :
      InTurn sh held source sink errors s [stage] [r]
        { ended := r.ended.ended, sink := r.left.sink, errors := r.left.errors
          channels := r.left.source.channels, started := stage.started r.ended, state := r.after }
  | broken {source : Inlet} {sink errors : Outlet} {s : State} {stage next : Stage}
      {rest : List Stage} {r : StageRun}
      (run : sh.stageRun held stage ⟨source, .channel {}, errors⟩ s = r)
      (unfinished : ∀ st, r.ended ≠ .finished st) :
      InTurn sh held source sink errors s (stage :: next :: rest) [r]
        { ended := r.ended.ended, sink, errors := r.left.errors
          channels := r.left.source.channels ++ [r.left.sink.closedChannel]
          started := stage.started r.ended, state := r.after }
  | next {source : Inlet} {sink errors : Outlet} {s : State} {stage next : Stage}
      {rest : List Stage} {r : StageRun} {runs : List StageRun} {st : Int} {others : Run}
      (run : sh.stageRun held stage ⟨source, .channel {}, errors⟩ s = r)
      (finished : r.ended = .finished st)
      (behind : InTurn sh held (.channel r.left.sink.closedChannel) sink r.left.errors r.after
        (next :: rest) runs others) :
      InTurn sh held source sink errors s (stage :: next :: rest) (r :: runs)
        { others with
          channels := r.left.source.channels ++ others.channels
          started := stage.command :: others.started }

namespace Shell
variable {sh : Shell} {held : List Place} {source : Inlet} {sink errors : Outlet} {s : State}
  {stages : List Stage} {runs : List StageRun} {run : Run} {r : StageRun} {k : Nat}

/-- The places of the files that are held open for the outlets of a pipeline. -/
def heldPlaces (sink errors : Outlet) : List Place :=
  (sink.handle?.toList ++ errors.handle?.toList).map (·.place)

theorem inTurn_of_ne_nil (hne : stages ≠ []) (status : Int) (source : Inlet) (errors : Outlet)
    (s : State) :
    sh.InTurn held source sink errors s stages (sh.runsInTurn held source sink errors s stages)
      (sh.runInTurn held status source sink errors s stages) := by
  induction stages generalizing status source errors s with
  | nil => exact absurd rfl hne
  | cons stage rest ih =>
    cases rest with
    | nil => exact .last rfl
    | cons next rest =>
      rcases hrun : sh.runStage held stage ⟨source, .channel {}, errors⟩ s with ⟨ended, left, after⟩
      have hr : sh.stageRun held stage ⟨source, .channel {}, errors⟩ s =
          ⟨stage, ⟨source, .channel {}, errors⟩, s, ended, left, after⟩ := by
        rw [stageRun, hrun]
      cases ended with
      | finished st =>
        rw [runsInTurn, hr, runInTurn_next status hrun]
        exact .next hr rfl (ih (by simp) st _ _ _)
      | notStarted =>
        rw [runsInTurn, hr, runInTurn, hrun]
        exact .broken hr (by simp)
      | raised failure =>
        rw [runsInTurn, hr, runInTurn, hrun]
        exact .broken hr (by simp)

theorem of_stageRun {stage : Stage} {w : Wiring} (h : sh.stageRun held stage w s = r) :
    r.Made sh held ∧ r.stage = stage ∧ r.before = s ∧ r.wiring = w := by
  rw [← h]
  exact ⟨rfl, rfl, rfl, rfl⟩

theorem finished_closedChannel (sink : Outlet) : (Inlet.channel sink.closedChannel).Finished := by
  intro c hc
  rw [List.mem_singleton.1 hc]
  exact closed_closedChannel sink

end Shell
end PipelineShell
