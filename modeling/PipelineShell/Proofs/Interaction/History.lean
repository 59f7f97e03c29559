import PipelineShell.Proofs.Execution.History
import PipelineShell.Proofs.Interaction

/-!
# The history in a run of `repl`

The history is always the one at the start, and behind it for each line read the line and what its
stages have loaded. Entries never change, so their numbers stay.
-/

namespace PipelineShell

/-- What a line has added to the history when it has ended. -/
def LineTurn.entries (sh : Shell) (t : LineTurn) : List Text :=
  t.line :: (sh.lineRuns t.line t.before).flatMap (StageRun.loaded sh.base)

theorem LineTurn.Leaves.history {screen : Screen} {t : LineTurn} {s : State}
    (h : t.Leaves screen s) : s.session.history = t.after.session.history := by
  cases h with
  | returned ended => rfl
  | interrupted ended => cases screen <;> rfl
  | failed ended stays uninterrupted whole => rfl

/-- The points that a conversation comes to, each with what has been added to the history up to
it. -/
inductive Shell.Point (sh : Shell) (screen : Screen) (s : State) (inputs : List Input) :
    List Text → State → Prop
  /-- The shell asks for the next input. -/
  | asking {read unread : List Input} {turns : List LineTurn} {m : State}
      (inputs_eq : inputs = read ++ unread) (course : sh.Converses screen s read turns m) :
      Point sh screen s inputs (turns.flatMap (LineTurn.entries sh)) m
  /-- A line is run. -/
  | running {read unread : List Input} {line : Text} {turns : List LineTurn} {s' m : State}
      {done : List StageRun} (inputs_eq : inputs = read ++ .line line :: unread)
      (nonempty : line ≠ []) (course : sh.Converses screen s read turns s')
      (reaches : sh.Reaches line (s'.remember line) done m) :
      Point sh screen s inputs
        (turns.flatMap (LineTurn.entries sh) ++ line :: done.flatMap (StageRun.loaded sh.base)) m
  /-- The inputs have come to their end. -/
  | ended {turns : List LineTurn} {m : State} (course : sh.Converses screen s inputs turns m) :
      Point sh screen s inputs (turns.flatMap (LineTurn.entries sh)) (m.newline screen)

namespace Shell
variable {sh : Shell} {screen : Screen} {s m : State} {l : Loop} {inputs read : List Input}
  {turns : List LineTurn} {entries : List Text}

theorem history_newline (screen : Screen) (s : State) :
    (s.newline screen).session.history = s.session.history := by
  cases screen <;> rfl

theorem history_runLine (hstandard : sh.builtins = Builtin.standard) {t : LineTurn}
    (hbefore : t.before = s.remember t.line)
    (hrun : sh.runLine t.line t.before = (t.ended, t.after)) :
    t.after.session.history = s.session.history ++ t.entries sh := by
  have hfinish : sh.Reaches t.line t.before (sh.lineRuns t.line t.before)
      (sh.runLine t.line t.before).2 := .finish
  have h := (hfinish.history hstandard).1
  rw [hrun] at h
  rw [h, hbefore, LineTurn.entries, hbefore]
  simp [State.remember, Session.remember]

theorem Converses.history (hstandard : sh.builtins = Builtin.standard)
    (h : sh.Converses screen s read turns m) :
    m.session.history = s.session.history ++ turns.flatMap (LineTurn.entries sh) := by
  induction h with
  | done s => simp
  | @interrupt s s' inputs turns rest ih => rw [ih, history_newline]
  | empty rest ih => exact ih
  | line nonempty before run left rest ih =>
    rw [ih, left.history, history_runLine hstandard before run, List.flatMap_cons,
      List.append_assoc]

theorem Converses.interact (h : sh.Converses screen l.state read turns m) (more : List Input) :
    ∃ l₁, l₁.state = m ∧ sh.interact screen (read ++ more) l = sh.interact screen more l₁ := by
  generalize hs : l.state = s at h
  induction h generalizing l with
  | done s => exact ⟨l, hs, rfl⟩
  | @interrupt s s' inputs turns rest ih =>
    refine ih (l := l.ask.newline screen) ?_
    rw [newline_state, ← hs]
    rfl
  | empty rest ih => exact ih (l := l.ask) hs
  | @line s s₁ s' inputs t turns nonempty before run left rest ih =>
    rw [← hs] at before
    obtain ⟨l₁, hhandle, hstate⟩ := handle_of_leaves nonempty before run left
    obtain ⟨l₂, hl₂, hrest⟩ := ih hstate
    refine ⟨l₂, hl₂, ?_⟩
    rw [List.cons_append, Shell.interact, hhandle]
    exact hrest

theorem Point.history (hstandard : sh.builtins = Builtin.standard)
    (h : sh.Point screen s inputs entries m) :
    m.session.history = s.session.history ++ entries := by
  cases h with
  | asking inputs_eq course => exact course.history hstandard
  | @running read unread line turns s' m done inputs_eq nonempty course reaches =>
    rw [(reaches.history hstandard).1, ← List.append_assoc, ← course.history hstandard]
    simp [State.remember, Session.remember]
  | ended course => rw [history_newline, course.history hstandard]

theorem Concludes.point {ended : Ended} {l' : Loop} (h : sh.Concludes screen l inputs ended l') :
    ∃ entries, sh.Point screen l.state inputs entries l'.state := by
  cases h with
  | endOfInput course lines state prompts =>
    rw [state]
    exact ⟨_, .ended course⟩
  | @exit read unread line turns s' code r l' inputs_eq nonempty course lines run stage asks =>
    have hreaches : sh.Reaches line (s'.remember line) (sh.lineRuns line (s'.remember line))
        (sh.runLine line (s'.remember line)).2 := .finish
    rw [run] at hreaches
    exact ⟨_, .running inputs_eq nonempty course hreaches⟩
  | @unreported read unread line path cause turns s' e l' inputs_eq nonempty course lines run
      target =>
    have hreaches : sh.Reaches line (s'.remember line) (sh.lineRuns line (s'.remember line))
        (sh.runLine line (s'.remember line)).2 := .finish
    rw [run] at hreaches
    exact ⟨_, .running inputs_eq nonempty course hreaches⟩

theorem history_interact (hstandard : sh.builtins = Builtin.standard) (screen : Screen)
    (inputs : List Input) (l : Loop) :
    l.state.session.history <+: (sh.interact screen inputs l).2.state.session.history := by
  obtain ⟨entries, hpoint⟩ := (sh.interact_concludes screen inputs l).point
  exact ⟨entries, (hpoint.history hstandard).symm⟩

theorem history_interact_line (hstandard : sh.builtins = Builtin.standard) {line : Text}
    (hne : line ≠ []) (unread : List Input) (l : Loop) :
    (sh.runLine line (l.state.remember line)).2.session.history <+:
      (sh.interact screen (.line line :: unread) l).2.state.session.history := by
  rcases hrun : sh.runLine line (l.state.remember line) with ⟨ended, after⟩
  rw [Shell.interact]
  cases handle_line screen (t := ⟨line, _, ended, after⟩) hne rfl hrun with
  | exit code hended hhandle =>
    simp only at hhandle
    simp only [hhandle, List.prefix_refl]
  | unreported hended htarget hhandle =>
    simp only at hhandle
    simp only [hhandle, List.prefix_refl]
  | @goesOn l₁ hhandle hleft hstatus hprompts =>
    simp only at hhandle
    rw [hhandle]
    have hlater := history_interact hstandard screen unread l₁
    rwa [hleft.history] at hlater

theorem Point.history_interact (hstandard : sh.builtins = Builtin.standard)
    (h : sh.Point screen l.state inputs entries m) :
    m.session.history <+: (sh.interact screen inputs l).2.state.session.history := by
  cases h with
  | @asking read unread turns m inputs_eq course =>
    obtain ⟨l₁, rfl, hrest⟩ := course.interact unread
    rw [inputs_eq, hrest]
    exact Shell.history_interact hstandard screen unread l₁
  | @running read unread line turns s' m done inputs_eq nonempty course reaches =>
    obtain ⟨l₁, rfl, hrest⟩ := course.interact (.line line :: unread)
    rw [inputs_eq, hrest]
    refine List.IsPrefix.trans ?_ (history_interact_line hstandard nonempty unread l₁)
    obtain ⟨hm, later, hlater⟩ := reaches.history hstandard
    have hfinish : sh.Reaches line (l₁.state.remember line) _ (sh.runLine line _).2 := .finish
    rw [hm, (hfinish.history hstandard).1, ← hlater, List.flatMap_append, ← List.append_assoc]
    exact List.prefix_append _ _
  | @ended turns m course =>
    obtain ⟨l₁, rfl, hrest⟩ := course.interact []
    rw [List.append_nil] at hrest
    rw [hrest, history_newline]
    exact Shell.history_interact hstandard screen [] l₁

/-- At each point of a run of `repl` the history is the one at the start, and behind it for each
line read the line and the entries that its `history -r` stages have loaded. So an entry has the
same number in every later listing. -/
theorem history_of_loop (sh : Shell) (hstandard : sh.builtins = Builtin.standard)
    (screen : Screen) (inputs : List Input) (s : State) :
    let l := (sh.loop screen inputs s).2
    (((∃ failure, sh.enter s = .error failure) ∧ l.state = s) ∨
      (sh.Concludes screen { state := s } inputs (sh.loop screen inputs s).1 l ∧
        (∃ entries, sh.Point screen s inputs entries l.state) ∧
        ∀ entries m, sh.Point screen s inputs entries m →
          m.session.history = s.session.history ++ entries ∧
          m.session.history <+: l.state.session.history ∧
          ∀ args w, args.head? ≠ some "-r".runes →
            let n := m.session.history.length
            let numbers := (Builtin.numbered 1 l.state.session.history).take n
            (Builtin.history args).run sh.base sh.names w m =
              (Builtin.list (numbers.drop (n - Builtin.listedCount n args.head?))).run
                sh.base sh.names w m)) ∧
    ∀ line s', ∀ r ∈ sh.lineRuns line s', r.Genuine sh ∧ r.Records sh.base := by
  intro l
  refine ⟨?_, fun line s' r hr =>
    ⟨(sh.lineRuns_traced line s').genuine r hr, lineRuns_records hstandard line s' r hr⟩⟩
  cases henter : sh.enter s with
  | error failure =>
    refine .inl ⟨⟨failure, rfl⟩, ?_⟩
    simp only [l, loop, henter]
  | ok first =>
    have hfirst : first = { state := s } := by
      unfold enter at henter
      cases hc : sh.completer s <;> rw [hc] at henter <;> cases henter
      rfl
    have hloop : sh.loop screen inputs s = sh.interact screen inputs { state := s } := by
      simp only [loop, henter, hfirst]
    have hconcludes := sh.interact_concludes screen inputs { state := s }
    refine .inr ?_
    simp only [l, hloop]
    refine ⟨hconcludes, hconcludes.point, fun entries m hpoint => ?_⟩
    have hlater := Point.history_interact (l := { state := s }) hstandard hpoint
    refine ⟨hpoint.history hstandard, hlater, fun args w hargs => ?_⟩
    rw [Builtin.history_of_head hargs]
    exact Builtin.listHistory_run sh.base sh.names args.head? w hlater

/-- A session with a file of two entries and one that is not text. -/
def loading : State where
  session := { cwd := [.char '/'], history := ["old".runes] }
  files :=
    { entries := [(.named ["h".runes], .file (.ofBytes "one\ntwo\n".runes.stored) Mode.plain),
        (.named ["x".runes], .file (.ofBytes [0xff]) Mode.plain)] }

def loadingInputs : List Input :=
  [.line "  ".runes, .line [], .line "nor | history -r h".runes, .interrupt,
    .line "history -r h | history -r x | history -r h".runes, .line "echo '".runes]

theorem history_of_loop_loading :
    plain.builtins = Builtin.standard ∧
      (plain.loop .own loadingInputs loading).2.state.session.history =
        ["old".runes, "  ".runes, "nor | history -r h".runes,
          "history -r h | history -r x | history -r h".runes, "one".runes, "two".runes,
          "echo '".runes] ∧
      ∃ entries,
        plain.Point .own loading loadingInputs entries
          (plain.loop .own loadingInputs loading).2.state ∧
        (plain.loop .own loadingInputs loading).2.state.session.history =
          loading.session.history ++ entries := by
  obtain ⟨hloop, -⟩ := history_of_loop plain rfl .own loadingInputs loading
  obtain ⟨⟨failure, henter⟩, -⟩ | ⟨-, ⟨entries, hpoint⟩, hpoints⟩ := hloop
  · cases henter
  · exact ⟨rfl, by decide +kernel, entries, hpoint, (hpoints entries _ hpoint).1⟩

end Shell
end PipelineShell
