import PipelineShell.Proofs.Execution.Functions
import PipelineShell.Proofs.Execution.Together

/-!
# What redirections capture

The targets are opened before any stage is run. In the end they hold what was kept of them, then the
output of the last stage, or the error output of all.
-/

namespace PipelineShell

/-- The bytes are behind what was kept of the target, the file that its path has named in `files`,
and the stream of the session has gained nothing; or, without a redirection, they are behind that
stream. -/
def State.Captured (base : Text) (s : State) (files : FileSystem) (o : Output)
    (redirect : Option Redirect) (data : Bytes) (s' : State) : Prop :=
  match redirect with
  | none => s'.output o = s.output o ++ data
  | some r => s'.output o = s.output o ∧
      ∃ place, files.locateNew base (s.session.resolve r.path) = .ok place ∧
        s'.files.bytesAt? place =
          some ((if r.append then (s.files.bytesAt? place).getD [] else []) ++ data)

/-! ### Opening -/

theorem FileSystem.get?_of_opened {fs fs' : FileSystem} {place q : Place} {append : Bool}
    (h : fs.Opened place append fs') (hq : q ≠ place) : fs'.get? q = fs.get? q := by
  cases h with
  | same => rfl
  | made absent =>
    have hne : place ≠ [] := by
      rintro rfl
      cases absent
    exact get?_set_of_ne hne hq _
  | emptied present truncating =>
    have hne : place ≠ [] := by
      rintro rfl
      cases present
    exact get?_set_of_ne hne hq _

namespace State
variable {s s' final : State} {base : Text} {o : Output} {redirect : Option Redirect}
  {sink : Outlet} {data : Bytes}

theorem output_congr (h : s'.session = s.session) (o : Output) : s'.output o = s.output o := by
  unfold output
  rw [h]

theorem get?_of_openOutlet (h : s.openOutlet base o redirect = .ok (sink, s')) {q : Place}
    (hq : ∀ handle, sink = .file handle → q ≠ handle.place) :
    s'.files.get? q = s.files.get? q := by
  rcases (opened_of_openOutlet h).2 with ⟨-, -, rfl⟩ | ⟨r, handle, -, hsink, -, hopened⟩
  · rfl
  · exact FileSystem.get?_of_opened hopened (hq handle hsink)

/-- A regular file that has been opened is written at its end, and holds what was kept of it. -/
theorem sound_of_openOutlet (h : s.openOutlet base o redirect = .ok (sink, s'))
    (hregular : ∀ handle, sink = .file handle → (s'.files.bytesAt? handle.place).isSome) :
    sink.Sound s' ∧ ∀ r handle, redirect = some r → sink = .file handle →
      s'.files.bytesAt? handle.place =
        some (if r.append then (s.files.bytesAt? handle.place).getD [] else []) := by
  rcases openOutlet_cases h with ⟨hr, rfl, rfl⟩ | ⟨r, handle, hr, rfl, -, hopen⟩
  · exact ⟨Outlet.sound_session o s', fun r handle hsome => by simp [hr] at hsome⟩
  · obtain ⟨hend, hbytes⟩ := Handle.atEnd_of_openForWriting hopen (hregular handle rfl)
    refine ⟨⟨rfl, fun other hother => ?_⟩, fun r' other hr' hother => ?_⟩
    · rw [← Outlet.file.inj hother]
      exact hend
    · obtain rfl : r = r' := Option.some.inj (hr.symm.trans hr')
      rw [← Outlet.file.inj hother]
      exact hbytes

theorem Captured.of_gained {s₀ s₀' s₂ : State}
    (hopen : s₀.openOutlet base o redirect = .ok (sink, s₀')) (hsession₀ : s₀.session = s.session)
    (hsession₂ : s₂.session = s.session)
    (hbytes : ∀ r handle, redirect = some r → sink = .file handle →
      s₂.files.bytesAt? handle.place =
        some (if r.append then (s.files.bytesAt? handle.place).getD [] else []))
    (hgained : s₂.Gained final data sink)
    (hother : sink ≠ .session o → final.output o = s₂.output o) :
    s.Captured base s₀.files o redirect data final := by
  rcases openOutlet_cases hopen with ⟨rfl, rfl, -⟩ | ⟨r, handle, rfl, rfl, -, hopened⟩
  · rw [Gained, output_congr hsession₂] at hgained
    exact hgained
  · rw [Gained, hbytes r handle rfl rfl] at hgained
    rw [hsession₀] at hopened
    exact ⟨(hother (by simp)).trans (output_congr hsession₂ o), handle.place,
      (FileSystem.opened_of_openForWriting hopened).1, hgained⟩

end State

/-- The targets of a pipeline have been opened, the one of its error output behind the other. They
are regular files, and they are not the same. -/
structure Pipeline.Opens (p : Pipeline) (base : Text) (s : State) (sink errors : Outlet)
    (s₁ s₂ : State) : Prop where
  stdout : s.openOutlet base .stdout p.stdout = .ok (sink, s₁)
  stderr : s₁.openOutlet base .stderr p.stderr = .ok (errors, s₂)
  regular : ∀ handle, sink = .file handle ∨ errors = .file handle →
    (s₂.files.bytesAt? handle.place).isSome
  distinct : ∀ h h', sink = .file h → errors = .file h' → h.place ≠ h'.place

namespace Pipeline.Opens
variable {p : Pipeline} {base : Text} {s s₁ s₂ final : State} {sink errors : Outlet}
  {out err : Bytes}

theorem session_eq (h : p.Opens base s sink errors s₁ s₂) :
    s₁.session = s.session ∧ s₂.session = s.session := by
  have h₁ := (State.opened_of_openOutlet h.stdout).1
  exact ⟨h₁, (State.opened_of_openOutlet h.stderr).1.trans h₁⟩

theorem get?_sink (h : p.Opens base s sink errors s₁ s₂) {handle : Handle}
    (hsink : sink = .file handle) : s₂.files.get? handle.place = s₁.files.get? handle.place :=
  State.get?_of_openOutlet h.stderr fun other herrors => h.distinct handle other hsink herrors

theorem get?_errors (h : p.Opens base s sink errors s₁ s₂) {handle : Handle}
    (herrors : errors = .file handle) : s₁.files.get? handle.place = s.files.get? handle.place :=
  State.get?_of_openOutlet h.stdout fun other hsink => (h.distinct other handle hsink herrors).symm

theorem sink_regular (h : p.Opens base s sink errors s₁ s₂) {handle : Handle}
    (hsink : sink = .file handle) : (s₁.files.bytesAt? handle.place).isSome := by
  rw [← FileSystem.bytesAt?_congr (h.get?_sink hsink)]
  exact h.regular handle (.inl hsink)

theorem sink_eq (h : p.Opens base s sink errors s₁ s₂) :
    sink = .session .stdout ∨ ∃ handle, sink = .file handle :=
  State.eq_of_openOutlet h.stdout

theorem errors_eq (h : p.Opens base s sink errors s₁ s₂) :
    errors = .session .stderr ∨ ∃ handle, errors = .file handle :=
  State.eq_of_openOutlet h.stderr

theorem sink_ne_stderr (h : p.Opens base s sink errors s₁ s₂) : sink ≠ .session .stderr := by
  rcases h.sink_eq with rfl | ⟨handle, rfl⟩ <;> nofun

theorem errors_ne_stdout (h : p.Opens base s sink errors s₁ s₂) : errors ≠ .session .stdout := by
  rcases h.errors_eq with rfl | ⟨handle, rfl⟩ <;> nofun

theorem sink_sound (h : p.Opens base s sink errors s₁ s₂) : sink.Sound s₂ := by
  have hsound := (State.sound_of_openOutlet h.stdout fun _ => h.sink_regular).1
  refine hsound.congr fun place htarget => ?_
  rcases h.sink_eq with rfl | ⟨handle, hsink⟩
  · cases htarget
  · obtain rfl : handle.place = place := by simpa [hsink, Outlet.target?] using htarget
    exact h.get?_sink hsink

theorem errors_sound (h : p.Opens base s sink errors s₁ s₂) : errors.Sound s₂ :=
  (State.sound_of_openOutlet h.stderr fun handle herrors => h.regular handle (.inr herrors)).1

theorem scene_sound (h : p.Opens base s sink errors s₁ s₂) :
    Scene.Sound ⟨.session, some sink, errors, s₂⟩ := by
  refine ⟨fun k hk => ?_, h.errors_sound, fun t ht he => ?_⟩
  · rw [← Option.some.inj hk]
    exact h.sink_sound
  · replace ht : sink.target? = some t := ht
    cases t with
    | output o =>
      have hsink := Outlet.target?_eq_output_iff.1 ht
      have herrors := Outlet.target?_eq_output_iff.1 he
      cases o with
      | stdout => exact h.errors_ne_stdout herrors
      | stderr => exact h.sink_ne_stderr hsink
    | file place =>
      rcases h.sink_eq with rfl | ⟨handle, rfl⟩
      · cases ht
      rcases h.errors_eq with rfl | ⟨handle', rfl⟩
      · cases he
      cases ht
      exact h.distinct handle handle' rfl rfl (Target.file.inj (Option.some.inj he)).symm

theorem leads (h : p.Opens base s sink errors s₁ s₂) :
    Shell.Leads (Shell.heldPlaces sink errors) sink errors :=
  ⟨Shell.place_mem_heldPlaces, h.sink_eq, h.errors_eq⟩

theorem bytes_sink (h : p.Opens base s sink errors s₁ s₂) (r : Redirect) (handle : Handle)
    (hr : p.stdout = some r) (hsink : sink = .file handle) :
    s₂.files.bytesAt? handle.place =
      some (if r.append then (s.files.bytesAt? handle.place).getD [] else []) := by
  rw [FileSystem.bytesAt?_congr (h.get?_sink hsink)]
  exact (State.sound_of_openOutlet h.stdout fun _ => h.sink_regular).2 r handle hr hsink

theorem bytes_errors (h : p.Opens base s sink errors s₁ s₂) (r : Redirect) (handle : Handle)
    (hr : p.stderr = some r) (herrors : errors = .file handle) :
    s₂.files.bytesAt? handle.place =
      some (if r.append then (s.files.bytesAt? handle.place).getD [] else []) := by
  rw [← FileSystem.bytesAt?_congr (h.get?_errors herrors)]
  exact (State.sound_of_openOutlet h.stderr fun handle herrors => h.regular handle (.inr herrors)).2
    r handle hr herrors

theorem captured (h : p.Opens base s sink errors s₁ s₂)
    (ha : s₂.Arrived final sink errors out err) :
    s.Captured base s.files .stdout p.stdout out final ∧
      s.Captured base s₁.files .stderr p.stderr err final := by
  obtain ⟨hsession₁, hsession₂⟩ := h.session_eq
  exact ⟨.of_gained h.stdout rfl hsession₂ h.bytes_sink ha.atSink fun hsink =>
      ha.elsewhere .stdout hsink h.errors_ne_stdout,
    .of_gained h.stderr hsession₁ hsession₂ h.bytes_errors ha.atErrors fun herrors =>
      ha.elsewhere .stderr h.sink_ne_stderr herrors⟩

end Pipeline.Opens

/-! ### Capturing -/

namespace Shell
variable {sh : Shell} {p : Pipeline} {s s₁ s₂ : State} {stages : List Stage} {sink errors : Outlet}
  {out err : Bytes}

theorem holds_heldPlaces (feed : Feed) (sink errors : Outlet) (s : State) :
    Scene.Holds (heldPlaces sink errors) ⟨feed, some sink, errors, s⟩ := by
  rintro place (h | h)
  · obtain ⟨handle, rfl, rfl⟩ := Outlet.target?_eq_file_iff.1 h
    simp [heldPlaces, Outlet.handle?]
  · obtain ⟨handle, rfl, rfl⟩ := Outlet.target?_eq_file_iff.1 h
    simp [heldPlaces, Outlet.handle?]

/-- What the last stage writes to its output and all stages to their error outputs, if all that are
reached are started and leave the targets alone. -/
inductive Writes (sh : Shell) (stages : List Stage) (sink errors : Outlet) (s : State) :
    Bytes → Bytes → Prop
  /-- One of the stages is a builtin, and each stage runs on what the one before it has left. -/
  | inTurn {runs : List StageRun} (mixed : externals? stages = none)
      (runs_eq : sh.runsInTurn (heldPlaces sink errors) .session sink errors s stages = runs)
      (spares : ∀ r ∈ runs, r.Spares sh (heldPlaces sink errors)) :
      Writes sh stages sink errors s (sh.lastWritten (heldPlaces sink errors) stages runs)
        (sh.complaints (heldPlaces sink errors) runs)
  /-- All stages are programs, which are functions of what they take, and they run side by side. -/
  | together {commands : List (Command × Text)} {joined : List (sh.programs.Process × Ends)}
      {perform : sh.programs.Process → Bytes → Performance} {pieces : List Piece}
      {last : Performance} (programs : externals? stages = some commands)
      (started :
        (sh.startAll s (heldPlaces sink errors) sink errors 0 none commands).refused = none)
      (joined_eq :
        (sh.startAll s (heldPlaces sink errors) sink errors 0 none commands).processes = joined)
      (sideBySide : sh.programs.SideBySide perform (heldPlaces sink errors) joined s.session.stdin
        s.files pieces)
      (last_eq : (performances perform (joined.map (·.1)) s.session.stdin).getLast? = some last) :
      Writes sh stages sink errors s last.stdout (Piece.bytes .stderr pieces)

theorem Writes.arrived (hopens : p.Opens sh.base s sink errors s₁ s₂)
    (h : sh.Writes stages sink errors s₂ out err) :
    s₂.Arrived (sh.runStages stages sink errors s₂).state sink errors out err := by
  cases h with
  | inTurn mixed runs_eq spares =>
    have hne : stages ≠ [] := by
      rintro rfl
      cases mixed
    have hturn : sh.InTurn (heldPlaces sink errors) .session sink errors s₂ stages _ _ :=
      inTurn_of_ne_nil hne 0 .session errors s₂
    rw [runs_eq] at hturn
    have hholds := holds_heldPlaces .session sink errors s₂
    have hrun : sh.runStages stages sink errors s₂ =
        sh.runInTurn (heldPlaces sink errors) 0 .session sink errors s₂ stages := by
      rw [runStages, mixed]
      rfl
    rw [hrun]
    exact (hturn.captures spares hopens.scene_sound hholds).arrived hopens.scene_sound hholds
  | @together commands joined perform pieces last programs started joined_eq sideBySide last_eq =>
    have hrun : sh.runStages stages sink errors s₂ =
        (sh.runTogether (heldPlaces sink errors) commands sink errors s₂).1 := by
      rw [runStages, programs]
      rfl
    subst joined_eq
    rw [hrun]
    exact (runTogether_performs hopens.leads hopens.scene_sound started sideBySide last_eq).2.2

/-- The targets are the files that the paths name before any stage is run. However the pipeline
ends, each holds what was kept of it, then the output of the last stage or the error output of all
stages, and the redirected stream of the session has gained nothing. A stream without redirection
has gained all of it. -/
theorem redirections_capture (sh : Shell) (p : Pipeline) (s : State)
    (hstages : sh.stages s p.stages = .ok stages)
    (hopens : p.Opens sh.base s sink errors s₁ s₂)
    (hwrites : sh.Writes stages sink errors s₂ out err) :
    s.Captured sh.base s.files .stdout p.stdout out (sh.runPipeline p s).state ∧
      s.Captured sh.base s₁.files .stderr p.stderr err (sh.runPipeline p s).state := by
  rw [runPipeline_of_opened hstages hopens.stdout hopens.stderr]
  exact hopens.captured (hwrites.arrived hopens)

/-! ### A system of programs that copy -/

/-- A shell on a system whose programs copy their input and mark their error output. -/
def marking : Shell where
  base := [.char '/']
  builtins := Builtin.standard
  programs := .ofFunctions (fun _ => .ok ()) fun (_ : Unit) input => ⟨input, [0x21], 0⟩

def storing : State where
  session := { cwd := [.char '/'], stdin := [0x31] }
  files :=
    { entries := [(.named ["d".runes], .directory Mode.directory),
        (.named ["c".runes], .file {} Mode.program),
        (.named ["old".runes], .file (.ofBytes [0x78]) Mode.plain)] }

/-- Some stages, the output of which is stored while their error output is added to a file. -/
def stored (stages : List Command) : Pipeline where
  stages
  stdout := some ⟨"new".runes, false⟩
  stderr := some ⟨"old".runes, true⟩

def newFile : Handle := { place := .named ["new".runes] }

def oldFile : Handle := { place := .named ["old".runes], append := true, position := 1 }

def openedTargets : State :=
  { storing with files := storing.files.set newFile.place (.file {} Mode.plain) }

theorem opens_stored (stages : List Command) :
    (stored stages).Opens marking.base storing (.file newFile) (.file oldFile) openedTargets
      openedTargets where
  stdout := rfl
  stderr := rfl
  regular := by
    rintro handle (h | h) <;> rw [← Outlet.file.inj h] <;> decide +kernel
  distinct := by
    intro handle handle' h h'
    rw [← Outlet.file.inj h, ← Outlet.file.inj h']
    decide +kernel

theorem bytesAt?_of_captured {stages : List Command} {final : State}
    (h : storing.Captured marking.base storing.files .stdout (stored stages).stdout out final ∧
      storing.Captured marking.base openedTargets.files .stderr (stored stages).stderr err final) :
    final.files.bytesAt? newFile.place = some out ∧
      final.files.bytesAt? oldFile.place = some ([0x78] ++ err) := by
  have hnew : storing.files.locateNew marking.base (storing.session.resolve "new".runes) =
      .ok newFile.place := rfl
  have hold : openedTargets.files.locateNew marking.base (storing.session.resolve "old".runes) =
      .ok oldFile.place := rfl
  obtain ⟨⟨-, new, hnew', hout⟩, -, old, hold', herr⟩ := h
  obtain rfl : newFile.place = new := Except.ok.inj (hnew.symm.trans hnew')
  obtain rfl : oldFile.place = old := Except.ok.inj (hold.symm.trans hold')
  exact ⟨hout, herr⟩

def copyCommand : Command := ⟨"/c".runes, []⟩

def copyStage : Stage := .external copyCommand "/c".runes

theorem stage?_copyCommand : marking.stage? storing copyCommand = some copyStage := by
  have hprogram : marking.program? storing "/c".runes = some "/c".runes := by decide +kernel
  rw [stage?, copyCommand, hprogram]
  rfl

theorem writes_copies :
    marking.Writes [copyStage, copyStage] (.file newFile) (.file oldFile) openedTargets [0x31]
      [0x21, 0x21] := by
  let held := heldPlaces (.file newFile) (.file oldFile)
  let commands := [(copyCommand, "/c".runes), (copyCommand, "/c".runes)]
  let joined : List (Unit × Ends) :=
    (marking.startAll openedTargets held (.file newFile) (.file oldFile) 0 none commands).processes
  have hline : Ends.InLine (joined.map (·.2)) :=
    (marking.row_startAll openedTargets held (.file newFile) (.file oldFile) commands).inLine
  have hside := Programs.sideBySide_ofFunctions (fun _ => .ok ())
    (fun (_ : Unit) input => ⟨input, [0x21], 0⟩) held hline [0x31] openedTargets.files
  have hlast : (performances (fun (_ : Unit) input => (⟨input, [0x21], 0⟩ : Performance))
      (joined.map (·.1)) [0x31]).getLast? = some ⟨[0x31], [0x21], 0⟩ := rfl
  have hstarted : (marking.startAll openedTargets held (.file newFile) (.file oldFile) 0 none
      commands).refused = none := rfl
  exact .together rfl hstarted rfl hside hlast

def cdStage : Stage := .builtin ⟨"cd".runes, ["d".runes]⟩ Builtin.cd

def echoStage : Stage := .builtin ⟨"echo".runes, ["hi".runes]⟩ Builtin.echo

theorem writes_moving :
    marking.Writes [cdStage, echoStage, copyStage] (.file newFile) (.file oldFile) openedTargets
      [0x68, 0x69, 0x0a] [0x21] := by
  let held := heldPlaces (.file newFile) (.file oldFile)
  let entered : State := { openedTargets with session := openedTargets.session.enter "/d".runes }
  let channel : Channel := { chunks := [[0x68, 0x69, 0x0a]] }
  let first : StageRun :=
    ⟨cdStage, ⟨.session, .channel {}, .file oldFile⟩, openedTargets, .finished 0,
      ⟨.session, .channel {}, .file oldFile⟩, entered⟩
  let second : StageRun :=
    ⟨echoStage, ⟨.channel { closed := true }, .channel {}, .file oldFile⟩, entered, .finished 0,
      ⟨.channel { closed := true }, .channel channel, .file oldFile⟩, entered⟩
  -- what the program writes is said by the system, so its run need not be followed
  let third : StageRun := marking.stageRun held copyStage
    ⟨.channel channel.close, .file newFile, .file oldFile⟩ entered
  have hcd : marking.runStage held cdStage first.wiring openedTargets =
      (.finished 0, first.left, entered) := by decide +kernel
  have hecho : marking.runStage held echoStage second.wiring entered =
      (.finished 0, second.left, entered) := rfl
  have hruns : marking.runsInTurn held .session (.file newFile) (.file oldFile) openedTargets
      [cdStage, echoStage, copyStage] = [first, second, third] := by
    rw [runsInTurn, stageRun, hcd]
    simp only [runsInTurn, stageRun, first, Outlet.closedChannel, Channel.close]
    rw [hecho]
    rfl
  have hspares : ∀ r ∈ [first, second, third], r.Spares marking held := by
    intro r hr c executable hstage
    simp only [List.mem_cons, List.not_mem_nil, or_false] at hr
    rcases hr with rfl | rfl | rfl
    · cases hstage
    · cases hstage
    · cases hstage
      exact ⟨(), rfl, fun _ _ => rfl⟩
  have hout : marking.lastWritten held [cdStage, echoStage, copyStage] [first, second, third] =
      [0x68, 0x69, 0x0a] := by decide +kernel
  have herr : marking.complaints held [first, second, third] = [0x21] := by decide +kernel
  rw [← hout, ← herr]
  exact .inTurn rfl hruns hspares

theorem redirections_capture_cd :
    let moving := stored [⟨"cd".runes, ["d".runes]⟩, ⟨"echo".runes, ["hi".runes]⟩, copyCommand]
    let copying := stored [copyCommand, copyCommand]
    let holds (p : Pipeline) (name : String) :=
      (marking.runPipeline p storing).state.files.bytesAt? (.named [name.runes])
    (holds moving "new" = some [0x68, 0x69, 0x0a] ∧ holds moving "old" = some [0x78, 0x21]) ∧
      holds copying "new" = some [0x31] ∧ holds copying "old" = some [0x78, 0x21, 0x21] := by
  intro moving copying holds
  have hmoving : marking.stages storing moving.stages = .ok [cdStage, echoStage, copyStage] := by
    have hcd : marking.stage? storing ⟨"cd".runes, ["d".runes]⟩ = some cdStage := rfl
    have hecho : marking.stage? storing ⟨"echo".runes, ["hi".runes]⟩ = some echoStage := rfl
    simp only [moving, stored, stages, hcd, hecho, stage?_copyCommand]
  have hcopying : marking.stages storing copying.stages = .ok [copyStage, copyStage] := by
    simp only [copying, stored, stages, stage?_copyCommand]
  exact ⟨bytesAt?_of_captured
      (redirections_capture marking moving storing hmoving (opens_stored _) writes_moving),
    bytesAt?_of_captured
      (redirections_capture marking copying storing hcopying (opens_stored _) writes_copies)⟩

end Shell
end PipelineShell
