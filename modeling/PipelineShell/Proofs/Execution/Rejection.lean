import PipelineShell.Builtin.Standard
import PipelineShell.Proofs.Execution.Composition
import PipelineShell.Proofs.Execution.Line

/-!
# A rejected line has no effect

A parse error and an unknown command leave one report, if it has an encoding, and a target that
cannot be opened leaves at most the other target opened. No stage is run.
-/

namespace PipelineShell.Shell

/-- The line ends so and leaves one report on the error output of the session, and it does whatever
the builtins and the programs may be that its commands stand for. -/
structure OnlyReports (sh : Shell) (line : Text) (s : State) (ended : Ended) (message : Text) :
    Prop where
  outcome : sh.runLine line s =
    (ended, { s with session :=
      { s.session with stderr := s.session.stderr ++ message.lineBytes } })
  regardless : ∀ other : Shell, other.base = sh.base → other.names = sh.names →
    other.runLine line s = sh.runLine line s

/-- The line fails as what is to be reported of it has no encoding, and leaves everything as it was.
-/
structure Unreported (sh : Shell) (line : Text) (s : State) : Prop where
  outcome : ∃ e, sh.runLine line s = (.raised (.unencodable e), s)
  regardless : ∀ other : Shell, other.base = sh.base → other.names = sh.names →
    other.runLine line s = sh.runLine line s

/-- A target of the pipeline cannot be opened; `s'` is the state in which that is found out. -/
inductive CannotOpen (sh : Shell) (p : Pipeline) (s : State) : Failure → State → Prop
  | stdout {r : Redirect} {failure : Failure} (target : p.stdout = some r)
      (unopened : s.Unopened sh.base r failure) : CannotOpen sh p s failure s
  | stderr {r : Redirect} {failure : Failure} {sink : Outlet} {s' : State}
      (opened : s.openOutlet sh.base .stdout p.stdout = .ok (sink, s')) (target : p.stderr = some r)
      (unopened : s'.Unopened sh.base r failure) : CannotOpen sh p s failure s'

variable {sh other : Shell} {line : Text} {s s' : State} {p : Pipeline} {failure : Failure}

theorem isWhole_message (e : ParseError) :
    ("pipesh: parse error: ".runes ++ e.message).IsWhole := by
  rw [Text.isWhole_append]
  refine ⟨by simp, ?_⟩
  cases e with
  | unclosedQuote mark => cases mark <;> decide
  | emptyCommand => decide
  | missingTarget op => cases op <;> decide

theorem onlyReports_of_error {e : ParseError} (hwords : Word.scan line ≠ .ok [])
    (h : Pipeline.ofLine line = .error e) :
    sh.OnlyReports line s (.returned parseErrorStatus)
      ("pipesh: parse error: ".runes ++ e.message) := by
  refine ⟨?_, fun other _ _ => ?_⟩
  · rw [runLine_of_error sh s hwords h, s.conclude_of_isWhole (isWhole_message e)]
    rfl
  · rw [runLine_of_error sh s hwords h, runLine_of_error other s hwords h]

theorem runLine_of_unknown {before after : List Command} {c : Command}
    (h : Pipeline.ofLine line = .ok p) (hp : p.stages = before ++ c :: after)
    (hbefore : ∀ d ∈ before, ¬sh.Unknown s d) (hc : sh.Unknown s c) :
    sh.runLine line s = s.conclude (notFoundMessage c.name) notFoundStatus := by
  have hstages : sh.stages s p.stages = .error c.name := by
    rw [hp]
    exact stages_of_unknown hbefore hc
  rw [runLine_of_pipeline sh s h, runPipeline_of_unknown hstages]

theorem runLine_of_unknown_congr {before after : List Command} {c : Command}
    (h : Pipeline.ofLine line = .ok p) (hp : p.stages = before ++ c :: after)
    (hbefore : ∀ d ∈ before, ¬sh.Unknown s d) (hc : sh.Unknown s c) (hbase : other.base = sh.base)
    (hnames : other.names = sh.names) : other.runLine line s = sh.runLine line s := by
  have hbefore' : ∀ d ∈ before, ¬other.Unknown s d :=
    fun d hd => mt (unknown_congr hbase hnames).1 (hbefore d hd)
  rw [runLine_of_unknown h hp hbefore hc,
    runLine_of_unknown h hp hbefore' ((unknown_congr hbase hnames).2 hc)]

theorem onlyReports_of_unknown {before after : List Command} {c : Command}
    (h : Pipeline.ofLine line = .ok p) (hp : p.stages = before ++ c :: after)
    (hbefore : ∀ d ∈ before, ¬sh.Unknown s d) (hc : sh.Unknown s c) (hname : c.name.IsWhole) :
    sh.OnlyReports line s (.returned notFoundStatus) (notFoundMessage c.name) := by
  refine ⟨?_, fun other => runLine_of_unknown_congr h hp hbefore hc⟩
  rw [runLine_of_unknown h hp hbefore hc,
    s.conclude_of_isWhole (State.isWhole_notFoundMessage.2 hname)]
  rfl

theorem unreported_of_unknown {before after : List Command} {c : Command}
    (h : Pipeline.ofLine line = .ok p) (hp : p.stages = before ++ c :: after)
    (hbefore : ∀ d ∈ before, ¬sh.Unknown s d) (hc : sh.Unknown s c) (hname : ¬c.name.IsWhole) :
    sh.Unreported line s := by
  refine ⟨?_, fun other => runLine_of_unknown_congr h hp hbefore hc⟩
  rw [runLine_of_unknown h hp hbefore hc]
  have hmessage := mt State.isWhole_notFoundMessage.1 hname
  obtain ⟨e, he⟩ := State.conclude_of_not_isWhole hmessage notFoundStatus
  exact ⟨e, he s⟩

theorem CannotOpen.congr (h : sh.CannotOpen p s failure s') (hbase : other.base = sh.base) :
    other.CannotOpen p s failure s' := by
  cases h with
  | stdout target unopened => exact .stdout target (hbase ▸ unopened)
  | stderr opened target unopened =>
    exact .stderr (by rw [hbase]; exact opened) target (hbase ▸ unopened)

theorem CannotOpen.runPipeline (h : sh.CannotOpen p s failure s')
    (hknown : ∀ c ∈ p.stages, ¬sh.Unknown s c) :
    (sh.runPipeline p s).ended = .raised failure ∧ (sh.runPipeline p s).state = s' ∧
      (sh.runPipeline p s).started = [] ∧
      ∀ handle, (sh.runPipeline p s).sink = .file handle → handle.closed = true := by
  obtain ⟨stages, hstages, -⟩ := stages_of_known hknown
  cases h with
  | stdout target unopened =>
    have hout := State.openOutlet_of_unopened unopened .stdout
    rw [← target] at hout
    rw [runPipeline_of_unopened_stdout hstages hout]
    exact ⟨rfl, rfl, rfl, fun handle hh => nomatch hh⟩
  | @stderr r failure sink s' opened target unopened =>
    have herr := State.openOutlet_of_unopened unopened .stderr
    rw [← target] at herr
    rw [runPipeline_of_unopened_stderr hstages opened herr]
    refine ⟨rfl, rfl, rfl, fun handle hh => ?_⟩
    cases sink with
    | session output => cases hh
    | file handle' =>
      cases hh
      rfl
    | channel c => cases hh

/-- Only the target of the output can have been made or emptied, and only if that of the error
output is the one that cannot be opened. -/
theorem CannotOpen.files (h : sh.CannotOpen p s failure s') (hfiles : s'.files ≠ s.files) :
    ∃ r r' place, p.stdout = some r ∧
      s.files.locateNew sh.base (s.session.resolve r.path) = .ok place ∧
      s.files.Opened place r.append s'.files ∧
      p.stderr = some r' ∧ s'.Unopened sh.base r' failure := by
  cases h with
  | stdout target unopened => exact absurd rfl hfiles
  | stderr opened target unopened =>
    rcases (State.opened_of_openOutlet opened).2 with ⟨-, -, rfl⟩ | ⟨r, handle, hr, -, hplace, ho⟩
    · exact absurd rfl hfiles
    · exact ⟨r, _, handle.place, hr, hplace, ho, target, unopened⟩

theorem CannotOpen.session (h : sh.CannotOpen p s failure s') : s'.session = s.session := by
  cases h with
  | stdout target unopened => rfl
  | stderr opened target unopened => exact (State.opened_of_openOutlet opened).1

/-- A parse error and an unknown command leave one report, for the first such command, and nothing
else; nothing is opened or started. If the name of the command has no encoding, the line raises
instead and leaves nothing. If a target cannot be opened, no stage is started, and only the target
of the output may have been made or truncated. -/
theorem runLine_rejected (sh : Shell) (line : Text) (s : State) :
    (∀ e, Word.scan line ≠ .ok [] → Pipeline.ofLine line = .error e →
      sh.OnlyReports line s (.returned 2) ("pipesh: parse error: ".runes ++ e.message)) ∧
    (∀ p, Pipeline.ofLine line = .ok p → (∃ c ∈ p.stages, sh.Unknown s c) →
      ∃ before c after, p.stages = before ++ c :: after ∧ (∀ d ∈ before, ¬sh.Unknown s d) ∧
        sh.Unknown s c ∧
        (c.name.IsWhole →
          sh.OnlyReports line s (.returned 127) (c.name ++ ": command not found".runes)) ∧
        (¬c.name.IsWhole → sh.Unreported line s) ∧
        (sh.runPipeline p s).started = [] ∧ (sh.runPipeline p s).sink = .session .stdout ∧
        (sh.runPipeline p s).errors = .session .stderr) ∧
    (∀ p failure s', Pipeline.ofLine line = .ok p → (∀ c ∈ p.stages, ¬sh.Unknown s c) →
      sh.CannotOpen p s failure s' →
      sh.runLine line s = (.raised failure, s') ∧ s'.session = s.session ∧
        (s'.files ≠ s.files → ∃ r r' place, p.stdout = some r ∧
          s.files.locateNew sh.base (s.session.resolve r.path) = .ok place ∧
          s.files.Opened place r.append s'.files ∧
          p.stderr = some r' ∧ s'.Unopened sh.base r' failure) ∧
        (sh.runPipeline p s).started = [] ∧
        ∀ other : Shell, other.base = sh.base → other.names = sh.names →
          other.runLine line s = sh.runLine line s) := by
  refine ⟨fun e hwords h => onlyReports_of_error hwords h, fun p h hunknown => ?_,
    fun p failure s' h hknown hopen => ?_⟩
  · obtain ⟨before, c, after, hp, hbefore, hc⟩ := first_unknown hunknown
    have hstages : sh.stages s p.stages = .error c.name := by
      rw [hp]
      exact stages_of_unknown hbefore hc
    refine ⟨before, c, after, hp, hbefore, hc, onlyReports_of_unknown h hp hbefore hc,
      unreported_of_unknown h hp hbefore hc, ?_⟩
    rw [runPipeline_of_unknown hstages]
    exact ⟨rfl, rfl, rfl⟩
  · obtain ⟨hended, hstate, hstarted, -⟩ := hopen.runPipeline hknown
    have hline : sh.runLine line s = (.raised failure, s') := by
      rw [runLine_of_pipeline sh s h, hended, hstate]
    refine ⟨hline, hopen.session, hopen.files, hstarted, fun other hbase hnames => ?_⟩
    have hknown' : ∀ c ∈ p.stages, ¬other.Unknown s c :=
      fun c hc => mt (unknown_congr hbase hnames).1 (hknown c hc)
    obtain ⟨hended', hstate', -⟩ := (hopen.congr hbase).runPipeline hknown'
    rw [hline, runLine_of_pipeline other s h, hended', hstate']

/-! ### Three lines that are rejected -/

def standing : State where
  session := { cwd := "/".runes }
  files := { entries := [(.named ["d".runes], .directory Mode.directory)] }

/-- A session in the root directory, where there is also the device that has no room. -/
def roomless : State where
  session := { cwd := "/".runes }
  files :=
    { entries := [(.named ["dev".runes], .directory Mode.directory),
        (.named ["dev".runes, "full".runes], .device .full)] }

/-- A shell with the standard builtins and no program to be found. -/
def plain : Shell := { copying with builtins := Builtin.standard }

theorem runLine_rejected_cd :
    plain.OnlyReports "cd d | \"echo".runes standing (.returned 2)
      "pipesh: parse error: unclosed \" quote".runes ∧
    plain.OnlyReports "cd d | nosuch | nor > new".runes standing (.returned 127)
      "nosuch: command not found".runes ∧
    plain.runLine "cd d > new 2> d".runes standing =
      (.raised (.redirectTarget "d".runes .isDirectory),
        { standing with files :=
          standing.files.set (.named ["new".runes]) (.file {} Mode.plain) }) := by
  have hcd : ¬plain.Unknown standing ⟨"cd".runes, ["d".runes]⟩ := fun h => nomatch h.1
  have hnosuch : plain.Unknown standing ⟨"nosuch".runes, []⟩ := ⟨rfl, rfl⟩
  refine ⟨?_, ?_, ?_⟩
  · have hscan : Word.scan "cd d | \"echo".runes = .error .double := rfl
    exact (runLine_rejected plain _ standing).1 (.unclosedQuote .double) (by rw [hscan]; nofun) rfl
  · obtain ⟨before, c, after, hp, hbefore, hc, honly, -⟩ :=
      (runLine_rejected plain "cd d | nosuch | nor > new".runes standing).2.1
        ⟨[⟨"cd".runes, ["d".runes]⟩, ⟨"nosuch".runes, []⟩, ⟨"nor".runes, []⟩],
          some ⟨"new".runes, false⟩, none⟩ rfl ⟨_, by simp, hnosuch⟩
    match before, hp with
    | [], hp =>
      cases hp
      exact absurd hc hcd
    | [_], hp =>
      cases hp
      exact honly (by decide)
    | _ :: d :: _, hp =>
      have hd : ⟨"nosuch".runes, []⟩ = d := (List.cons.inj (List.cons.inj hp).2).1
      exact absurd hnosuch (hd ▸ hbefore d (by simp))
  · have hopened : standing.openOutlet plain.base .stdout (some ⟨"new".runes, false⟩) =
        .ok (.file { place := .named ["new".runes] },
          { standing with files :=
            standing.files.set (.named ["new".runes]) (.file {} Mode.plain) }) := by
      rfl
    have hrefused : (standing.files.set (.named ["new".runes]) (.file {} Mode.plain)).openForWriting
        plain.base (standing.session.resolve "d".runes) false = .error .isDirectory := by
      rfl
    exact ((runLine_rejected plain "cd d > new 2> d".runes standing).2.2
      ⟨[⟨"cd".runes, ["d".runes]⟩], some ⟨"new".runes, false⟩, some ⟨"d".runes, false⟩⟩ _ _ rfl
      (by simpa using hcd) (.stderr hopened rfl (.system (by decide) hrefused))).1

/-- A command that is half of a surrogate pair: nobody knows it, but this cannot be reported. -/
theorem runLine_unreported :
    let name : Text := [.lone 0x4ff]
    Pipeline.ofLine name = .ok ⟨[⟨name, []⟩], none, none⟩ ∧ plain.Unknown standing ⟨name, []⟩ ∧
      plain.runLine name standing = (.raised (.unencodable ⟨0, 0x4ff, 1⟩), standing) :=
  ⟨rfl, ⟨rfl, rfl⟩, rfl⟩

end PipelineShell.Shell
