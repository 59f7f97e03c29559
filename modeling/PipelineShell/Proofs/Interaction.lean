import PipelineShell.Interaction
import PipelineShell.Proofs.Execution.Rejection
import PipelineShell.Proofs.Execution.Trace
import PipelineShell.Proofs.Failure
import PipelineShell.Proofs.SearchPath

/-!
# Runs of `repl`

How `repl` ends, by induction on the inputs, and with which status.
-/

namespace PipelineShell

/-- The session after the loop has printed an empty line. A screen of its own is not part of the
session. -/
def State.newline (screen : Screen) (s : State) : State :=
  match screen with
  | .own => s
  | .session => s.emit .stdout [10]

/-- The line that an input gives to run: an empty line is passed over. -/
def Input.line? : Input → Option Text
  | .interrupt => none
  | .line [] => none
  | .line text => some text

theorem Input.line?_of_ne_nil {text : Text} (h : text ≠ []) :
    (Input.line text).line? = some text := by
  cases text with
  | nil => exact absurd rfl h
  | cons c cs => rfl

/-- One line of a conversation: what it was run on, how it ended, and what it has left. -/
structure LineTurn where
  line : Text
  before : State
  ended : Ended
  after : State

namespace LineTurn

/-- The status that the loop keeps of a line. -/
def status (t : LineTurn) : Int :=
  match t.ended with
  | .returned status => status
  | .raised .interrupted => 130
  | .raised _ => 1

/-- What is reported of a failure. -/
def failureMessage (failure : Failure) : Text := "pipesh: ".runes ++ failure.message

/-- What the next input finds, if the loop goes on: a failure has been reported. -/
inductive Leaves (screen : Screen) (t : LineTurn) : State → Prop
  | returned {status : Int} (ended : t.ended = .returned status) : Leaves screen t t.after
  | interrupted (ended : t.ended = .raised .interrupted) :
      Leaves screen t (t.after.newline screen)
  | failed {failure : Failure} (ended : t.ended = .raised failure)
      (stays : ∀ code, failure ≠ .exit code) (uninterrupted : failure ≠ .interrupted)
      (whole : failure.message.IsWhole) :
      Leaves screen t (t.after.emit .stderr (failureMessage failure).lineBytes)

theorem Leaves.unique {screen : Screen} {t : LineTurn} {s s' : State} (h : t.Leaves screen s)
    (h' : t.Leaves screen s') : s = s' := by
  cases h <;> cases h' <;> simp_all

/-- The status of the last line, or another if there is none. -/
def lastStatus (otherwise : Int) (turns : List LineTurn) : Int :=
  (turns.getLast?.map status).getD otherwise

theorem lastStatus_append (otherwise : Int) (turns more : List LineTurn) :
    lastStatus otherwise (turns ++ more) = lastStatus (lastStatus otherwise turns) more := by
  unfold lastStatus
  rw [List.getLast?_append]
  cases more.getLast? <;> rfl

end LineTurn

namespace Shell

/-- The inputs are handled in order, and the loop goes on after each. Each line that is not
empty is added to the history and run once, on what the inputs before it have left. -/
inductive Converses (sh : Shell) (screen : Screen) :
    State → List Input → List LineTurn → State → Prop
  | done (s : State) : Converses sh screen s [] [] s
  | interrupt {s s' : State} {inputs : List Input} {turns : List LineTurn}
      (rest : Converses sh screen (s.newline screen) inputs turns s') :
      Converses sh screen s (.interrupt :: inputs) turns s'
  | empty {s s' : State} {inputs : List Input} {turns : List LineTurn}
      (rest : Converses sh screen s inputs turns s') :
      Converses sh screen s (.line [] :: inputs) turns s'
  | line {s s₁ s' : State} {inputs : List Input} {t : LineTurn} {turns : List LineTurn}
      (nonempty : t.line ≠ []) (before : t.before = s.remember t.line)
      (run : sh.runLine t.line t.before = (t.ended, t.after)) (left : t.Leaves screen s₁)
      (rest : Converses sh screen s₁ inputs turns s') :
      Converses sh screen s (.line t.line :: inputs) (t :: turns) s'

/-- How a loop that has come so far ends on some inputs. -/
inductive Concludes (sh : Shell) (screen : Screen) (l : Loop) (inputs : List Input) :
    Ended → Loop → Prop
  /-- All inputs are read; the status is that of the last line. -/
  | endOfInput {turns : List LineTurn} {s' : State} {l' : Loop}
      (course : sh.Converses screen l.state inputs turns s')
      (lines : turns.map LineTurn.line = inputs.filterMap Input.line?)
      (state : l'.state = s'.newline screen)
      (prompts : l'.prompts = l.prompts + inputs.length + 1) :
      Concludes sh screen l inputs (.returned (LineTurn.lastStatus l.status turns)) l'
  /-- A line asks to end the session, by one of its stages; no input behind it is read. -/
  | exit (read unread : List Input) {line : Text} {turns : List LineTurn} {s' : State} {code : Int}
      {r : StageRun} {l' : Loop} (inputs_eq : inputs = read ++ .line line :: unread)
      (nonempty : line ≠ []) (course : sh.Converses screen l.state read turns s')
      (lines : turns.map LineTurn.line = read.filterMap Input.line?)
      (run : sh.runLine line (s'.remember line) = (.raised (.exit code), l'.state))
      (stage : r ∈ sh.lineRuns line (s'.remember line)) (asks : r.ended = .raised (.exit code))
      (prompts : l'.prompts = l.prompts + read.length + 1) :
      Concludes sh screen l inputs (.raised (.exit code)) l'
  /-- A line fails on a redirection whose target has no encoding; this is not reported, and no input
  behind it is read. -/
  | unreported (read unread : List Input) {line path : Text} {cause : SystemError}
      {turns : List LineTurn} {s' : State} {e : Utf8.Unencodable} {l' : Loop}
      (inputs_eq : inputs = read ++ .line line :: unread) (nonempty : line ≠ [])
      (course : sh.Converses screen l.state read turns s')
      (lines : turns.map LineTurn.line = read.filterMap Input.line?)
      (run : sh.runLine line (s'.remember line) = (.raised (.redirectTarget path cause), l'.state))
      (target : ¬path.IsWhole) (prompts : l'.prompts = l.prompts + read.length + 1) :
      Concludes sh screen l inputs (.raised (.unencodable e)) l'

variable {sh : Shell} {screen : Screen} {l l' l₁ : Loop} {inputs : List Input} {ended : Ended}

/-! ### One input -/

theorem newline_state (screen : Screen) (l : Loop) :
    (l.newline screen).state = l.state.newline screen := by
  cases screen <;> rfl

theorem newline_prompts (screen : Screen) (l : Loop) : (l.newline screen).prompts = l.prompts := by
  cases screen <;> rfl

theorem newline_status (screen : Screen) (l : Loop) : (l.newline screen).status = l.status := by
  cases screen <;> rfl

/-- An input makes one turn if it gives a line to run, and none if it does not; then the loop ends
as it does on the other inputs. -/
theorem Concludes.cons (h : sh.Concludes screen l₁ inputs ended l') {input : Input}
    (made : List LineTurn) (hmade : made.map LineTurn.line = [input].filterMap Input.line?)
    (hcourse : ∀ read turns s', sh.Converses screen l₁.state read turns s' →
      sh.Converses screen l.state (input :: read) (made ++ turns) s')
    (hstatus : l₁.status = LineTurn.lastStatus l.status made)
    (hprompts : l₁.prompts = l.prompts + 1) : sh.Concludes screen l (input :: inputs) ended l' := by
  have hlines {turns : List LineTurn} {read : List Input}
      (lines : turns.map LineTurn.line = read.filterMap Input.line?) :
      (made ++ turns).map LineTurn.line = (input :: read).filterMap Input.line? := by
    rw [List.map_append, hmade, lines, ← List.filterMap_append, List.singleton_append]
  cases h with
  | endOfInput course lines state prompts =>
    rw [hstatus, ← LineTurn.lastStatus_append]
    refine .endOfInput (hcourse _ _ _ course) (hlines lines) state ?_
    rw [prompts, hprompts, List.length_cons]
    omega
  | exit read unread inputs_eq nonempty course lines run stage asks prompts =>
    refine .exit (input :: read) unread ?_ nonempty (hcourse _ _ _ course) (hlines lines) run stage
      asks ?_
    · rw [inputs_eq, List.cons_append]
    · rw [prompts, hprompts, List.length_cons]
      omega
  | unreported read unread inputs_eq nonempty course lines run target prompts =>
    refine .unreported (input :: read) unread ?_ nonempty (hcourse _ _ _ course) (hlines lines) run
      target ?_
    · rw [inputs_eq, List.cons_append]
    · rw [prompts, hprompts, List.length_cons]
      omega

theorem runInput_of_failed {line : Text} {failure : Failure} {after : State}
    (hrun : sh.runLine line (l.state.remember line) = (.raised failure, after))
    (hstays : ∀ code, failure ≠ .exit code) (hgoes : failure ≠ .interrupted) :
    sh.runInput screen line l =
      match after.report (LineTurn.failureMessage failure) with
      | .error unreported => (some unreported, { l with state := after })
      | .ok state => (none, { l with state, status := failedStatus }) := by
  cases failure with
  | exit code => exact absurd rfl (hstays code)
  | interrupted => exact absurd rfl hgoes
  | _ =>
    rw [runInput, hrun]
    rfl

/-- The ways in which a line that is not empty is handled, after it was run once on the state with
the line added to the history. -/
inductive Handled (sh : Shell) (screen : Screen) (t : LineTurn) (l : Loop) : Prop
  | exit (code : Int) (ended : t.ended = .raised (.exit code))
      (handle : sh.handle screen (.line t.line) l =
        (some (.exit code), { l.ask with state := t.after }))
  | unreported {path : Text} {cause : SystemError} {e : Utf8.Unencodable}
      (ended : t.ended = .raised (.redirectTarget path cause)) (target : ¬path.IsWhole)
      (handle : sh.handle screen (.line t.line) l =
        (some (.unencodable e), { l.ask with state := t.after }))
  | goesOn {l₁ : Loop} (handle : sh.handle screen (.line t.line) l = (none, l₁))
      (left : t.Leaves screen l₁.state) (status : l₁.status = t.status)
      (prompts : l₁.prompts = l.prompts + 1)

theorem handle_line (screen : Screen) {t : LineTurn} (hne : t.line ≠ [])
    (hbefore : t.before = l.state.remember t.line)
    (hrun : sh.runLine t.line t.before = (t.ended, t.after)) : sh.Handled screen t l := by
  obtain ⟨line, before, ended, after⟩ := t
  simp only at hne hbefore hrun
  rw [hbefore] at hrun
  have hhandle : sh.handle screen (.line line) l = sh.runInput screen line l.ask := by
    obtain ⟨c, cs, rfl⟩ := List.exists_cons_of_ne_nil hne
    rfl
  cases ended with
  | returned status =>
    have hnext : sh.handle screen (.line line) l =
        (none, { l.ask with state := after, status }) := by
      rw [hhandle, runInput, Loop.ask, hrun]
    exact .goesOn hnext (.returned rfl) rfl rfl
  | raised failure =>
    by_cases hexit : ∃ code, failure = .exit code
    · obtain ⟨code, rfl⟩ := hexit
      refine .exit code rfl ?_
      rw [hhandle, runInput, Loop.ask, hrun]
    by_cases hinterrupted : failure = .interrupted
    · subst hinterrupted
      have hnext : sh.handle screen (.line line) l =
          (none, { ({ l.ask with state := after } : Loop).newline screen with
            status := interruptedStatus }) := by
        rw [hhandle, runInput, Loop.ask, hrun]
      have hleft : LineTurn.Leaves screen ⟨line, before, .raised .interrupted, after⟩
          (after.newline screen) := .interrupted rfl
      rw [← newline_state screen { l.ask with state := after }] at hleft
      exact .goesOn hnext hleft rfl (newline_prompts screen _)
    have hstays (code : Int) (h : failure = .exit code) : False := hexit ⟨code, h⟩
    have hfailed : sh.runInput screen line l.ask =
        match after.report (LineTurn.failureMessage failure) with
        | .error unreported => (some unreported, { l.ask with state := after })
        | .ok state => (none, { l.ask with state, status := failedStatus }) :=
      runInput_of_failed hrun hstays hinterrupted
    by_cases hwhole : failure.message.IsWhole
    · -- the message is reported, and the loop goes on
      have hmessage : (LineTurn.failureMessage failure).IsWhole := by
        simp [LineTurn.failureMessage, hwhole]
      rw [after.report_of_isWhole hmessage] at hfailed
      refine .goesOn (hhandle.trans hfailed) (.failed rfl hstays hinterrupted hwhole) ?_ rfl
      cases failure with
      | exit code => exact (hstays code rfl).elim
      | interrupted => exact absurd rfl hinterrupted
      | _ => rfl
    · obtain ⟨path, cause, rfl, htarget⟩ :
          ∃ path cause, failure = .redirectTarget path cause ∧ ¬path.IsWhole := by
        simpa [Failure.isWhole_message_iff] using hwhole
      have hmessage : ¬(LineTurn.failureMessage (.redirectTarget path cause)).IsWhole := by
        simpa [LineTurn.failureMessage] using hwhole
      obtain ⟨e, he⟩ := State.report_of_not_isWhole hmessage
      rw [he] at hfailed
      exact .unreported rfl htarget (hhandle.trans hfailed)

theorem handle_of_leaves {t : LineTurn} {s₁ : State} (hne : t.line ≠ [])
    (hbefore : t.before = l.state.remember t.line)
    (hrun : sh.runLine t.line t.before = (t.ended, t.after)) (hleft : t.Leaves screen s₁) :
    ∃ l₁, sh.handle screen (.line t.line) l = (none, l₁) ∧ l₁.state = s₁ := by
  cases handle_line screen hne hbefore hrun with
  | exit code ended handle =>
    cases hleft with
    | returned h => cases ended.symm.trans h
    | interrupted h => cases ended.symm.trans h
    | failed h stays uninterrupted whole =>
      cases ended.symm.trans h
      exact absurd rfl (stays code)
  | unreported ended target handle =>
    cases hleft with
    | returned h => cases ended.symm.trans h
    | interrupted h => cases ended.symm.trans h
    | failed h stays uninterrupted whole =>
      cases ended.symm.trans h
      exact absurd ((Failure.isWhole_message_iff _).1 whole _ _ rfl) target
  | goesOn handle left status prompts => exact ⟨_, handle, left.unique hleft⟩

/-! ### All inputs -/

theorem interact_concludes (sh : Shell) (screen : Screen) (inputs : List Input) (l : Loop) :
    sh.Concludes screen l inputs (sh.interact screen inputs l).1
      (sh.interact screen inputs l).2 := by
  -- from any point that the loop may have come to, since each input moves it on
  induction inputs generalizing l with
  | nil =>
    exact .endOfInput (.done _) rfl (newline_state screen l.ask) (newline_prompts screen l.ask)
  | cons input inputs ih =>
    cases input with
    | interrupt =>
      have hstate := newline_state screen l.ask
      refine (ih (l.ask.newline screen)).cons [] rfl (fun read turns s' course => ?_)
        (newline_status screen l.ask) (newline_prompts screen l.ask)
      rw [hstate] at course
      exact .interrupt course
    | line line =>
      by_cases hne : line = []
      · rw [hne]
        exact (ih l.ask).cons [] rfl (fun read turns s' course => .empty course) rfl rfl
      · rcases hrun : sh.runLine line (l.state.remember line) with ⟨ended, after⟩
        rw [interact]
        cases handle_line screen (t := ⟨line, _, ended, after⟩) hne rfl hrun with
        | exit code hended hhandle =>
          simp only at hended hhandle
          rw [hended] at hrun
          obtain ⟨r, hr, hasks⟩ := (sh.lineRuns_traced line _).exit code (congrArg Prod.fst hrun)
          rw [hhandle]
          exact .exit [] inputs rfl hne (.done _) rfl hrun hr hasks rfl
        | unreported hended htarget hhandle =>
          simp only at hended hhandle
          rw [hended] at hrun
          rw [hhandle]
          exact .unreported [] inputs rfl hne (.done _) rfl hrun htarget rfl
        | @goesOn l₁ hhandle hleft hstatus hprompts =>
          simp only at hhandle
          rw [hhandle]
          refine (ih l₁).cons [⟨line, _, ended, after⟩] ?_ (fun read turns s' course => ?_)
            hstatus hprompts
          · simp [Input.line?_of_ne_nil hne]
          · exact .line hne rfl hrun hleft course

/-- A search path without NUL characters can be searched, and the loop begins, unless the system
cannot be given one of its directories. -/
theorem enter_of_clean (sh : Shell) {s : State}
    (hpath : ∀ path, s.session.searchPath = some path → .char '\x00' ∉ path) :
    sh.enter s = .ok { state := s } ∨ ∃ e, sh.enter s = .error (.unencodable e) := by
  cases hscan : SearchPath.programs s.files sh.base s.session.searchPath with
  | ok names => exact .inl (by simp only [enter, completer, hscan, Except.map])
  | error failure =>
    have henter : sh.enter s = .error failure := by
      simp only [enter, completer, hscan, Except.map]
    obtain ⟨directory, hdirectory, hunfit⟩ := SearchPath.unfit_of_programs hscan
    obtain ⟨-, hnul⟩ | ⟨e, rfl⟩ := Text.unfit?_eq_some hunfit
    · have hmem := Text.mem_of_mem_splitOn hdirectory hnul
      cases hp : s.session.searchPath with
      | none => simp [hp] at hmem
      | some path =>
        rw [hp] at hmem
        exact absurd hmem (hpath path hp)
    · exact .inr ⟨e, henter⟩

/-- `repl` handles the inputs in order and returns the status of the last line: its own, 1 if it
raised, which is reported, 130 if it was interrupted, 0 if there was none. It ends early with the
first line that raises `SystemExit`, from whichever stage, or with the encoding error of a report:
that of a redirection whose target has no encoding. It does not begin if `PATH` cannot be scanned.
-/
theorem loop_concludes (sh : Shell) (screen : Screen) (inputs : List Input) (s : State)
    (hpath : ∀ path, s.session.searchPath = some path → .char '\x00' ∉ path) :
    (sh.Concludes screen { state := s } inputs (sh.loop screen inputs s).1
        (sh.loop screen inputs s).2 ∨
      ∃ e, sh.enter s = .error (.unencodable e) ∧
        sh.loop screen inputs s = (.raised (.unencodable e), { state := s })) ∧
      ∀ line s' r code, r ∈ sh.lineRuns line s' → r.ended = .raised (.exit code) →
        (sh.runLine line s').1 = .raised (.exit code) ∨
          (sh.runLine line s').1 = .raised (.unwritable .noSpace) := by
  refine ⟨?_, fun line s' r code hr hasks =>
    (sh.lineRuns_traced line s').raised r hr _ hasks⟩
  obtain henter | ⟨e, henter⟩ := sh.enter_of_clean hpath
  · have hloop : sh.loop screen inputs s = sh.interact screen inputs { state := s } := by
      simp only [loop, henter]
    rw [hloop]
    exact .inl (sh.interact_concludes screen inputs { state := s })
  · exact .inr ⟨e, henter, by simp only [loop, henter]⟩

/-- A conversation in which a line fails, and a stage in the middle asks to end the session. -/
def leaving : List Input :=
  [.line "cd d".runes, .interrupt, .line [], .line "history -r".runes,
    .line "pwd | exit 3 | cd ..".runes, .line "pwd".runes]

/-- A session with two directories on its search path. -/
def searching : State where
  session := { cwd := [.char '/'], env := [("PATH".runes, "/d:/".runes)] }
  files := standing.files

theorem loop_concludes_leaving :
    (∀ path, searching.session.searchPath = some path → .char '\x00' ∉ path) ∧
      (plain.loop .own leaving searching).2.prompts = 5 ∧
      (plain.loop .own leaving searching).2.state.session.stderr =
        "pipesh: list index out of range\n".runes.stored ∧
      plain.Concludes .own { state := searching } leaving (.raised (.exit 3))
        (plain.loop .own leaving searching).2 := by
  have hpath : ∀ path, searching.session.searchPath = some path → .char '\x00' ∉ path := by
    intro path h
    have hp : "/d:/".runes = path := Option.some.inj h
    rw [← hp]
    decide
  have hended : (plain.loop .own leaving searching).1 = .raised (.exit 3) := by decide +kernel
  obtain ⟨hconcludes | ⟨e, henter, -⟩, -⟩ := loop_concludes plain .own leaving searching hpath
  · rw [hended] at hconcludes
    exact ⟨hpath, by decide +kernel, by decide +kernel, hconcludes⟩
  · cases henter

theorem loop_unreported :
    let target : Text := "nodir/".runes ++ [.lone 0x4ff]
    let line : Text := "echo hi > ".runes ++ target
    (plain.runLine line (searching.remember line)).1 =
        .raised (.redirectTarget target .notFound) ∧
      (plain.loop .own [.line line, .line "pwd".runes] searching).1 =
        .raised (.unencodable ⟨14, 0x4ff, 1⟩) ∧
      (plain.loop .own [.line line, .line "pwd".runes] searching).2.prompts = 1 := by
  decide +kernel

end Shell
end PipelineShell
