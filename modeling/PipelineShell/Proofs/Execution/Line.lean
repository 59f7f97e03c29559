import PipelineShell.Execution.Line
import PipelineShell.Proofs.Text.System

/-!
# The ways a line ends

`execute_line` by its exits: no tokens, a parse error, an unknown command, a target that cannot be
opened, or the run of the stages.
-/

namespace PipelineShell

/-! ### Reporting -/

namespace State
variable {message : Text}

theorem report_of_isWhole (s : State) (h : message.IsWhole) :
    s.report message = .ok (s.emit .stderr message.lineBytes) := by
  rw [report, Session.report, Text.encode_line h]
  rfl

theorem report_of_not_isWhole (h : ¬message.IsWhole) :
    ∃ e, ∀ s : State, s.report message = .error (.unencodable e) := by
  obtain ⟨e, he⟩ := Utf8.encode_of_not_isWhole (mt Text.isWhole_line.1 h)
  exact ⟨e, fun s => by rw [report, Session.report, he]; rfl⟩

theorem isWhole_notFoundMessage {name : Text} : (notFoundMessage name).IsWhole ↔ name.IsWhole := by
  simp [notFoundMessage]

theorem conclude_of_isWhole (s : State) (h : message.IsWhole) (status : Int) :
    s.conclude message status =
      (.returned status, s.emit .stderr message.lineBytes) := by
  rw [conclude, s.report_of_isWhole h]

theorem conclude_of_not_isWhole (h : ¬message.IsWhole) (status : Int) :
    ∃ e, ∀ s : State, s.conclude message status = (.raised (.unencodable e), s) := by
  obtain ⟨e, he⟩ := report_of_not_isWhole h
  exact ⟨e, fun s => by rw [conclude, he]⟩

theorem conclude_ne_exit (s : State) (message : Text) (status code : Int) :
    (s.conclude message status).1 ≠ .raised (.exit code) := by
  by_cases h : message.IsWhole
  · rw [s.conclude_of_isWhole h]
    nofun
  · obtain ⟨e, he⟩ := conclude_of_not_isWhole h status
    rw [he]
    nofun

end State

/-! ### Opening a target -/

/-- What becomes of the files when one is opened for writing at a place: it is made, or emptied, or
all stays as it is. -/
inductive FileSystem.Opened (fs : FileSystem) (place : Place) (append : Bool) : FileSystem → Prop
  | same : Opened fs place append fs
  | made (absent : fs.get? place = none) :
      Opened fs place append (fs.set place (.file {} Mode.plain))
  | emptied {content : Content} {mode : Mode} (present : fs.get? place = some (.file content mode))
      (truncating : append = false) : Opened fs place append (fs.set place (.file {} mode))

theorem FileSystem.opened_of_openForWriting {fs fs' : FileSystem} {base path : Text} {append : Bool}
    {h : Handle} (ho : fs.openForWriting base path append = .ok (h, fs')) :
    fs.locateNew base path = .ok h.place ∧ fs.Opened h.place append fs' := by
  unfold openForWriting at ho
  split at ho
  · cases ho
  · next place hp =>
    split at ho
    · next hg =>
      cases ho
      exact ⟨hp, .made hg⟩
    · cases ho
    · next content mode hg =>
      split at ho
      · cases ho
        exact ⟨hp, .same⟩
      · next happ =>
        cases ho
        exact ⟨hp, .emptied hg (Bool.eq_false_iff.2 happ)⟩
    · cases ho
    · cases ho
    · cases ho
      exact ⟨hp, .same⟩
    · cases ho

namespace State
variable {s s' : State} {base : Text} {output : Output} {redirect : Option Redirect} {sink : Outlet}

/-- Why a target cannot be opened: the system cannot be given its path, or it refuses. -/
inductive Unopened (s : State) (base : Text) (r : Redirect) : Failure → Prop
  | unfit {failure : Failure} (spoilt : (s.session.resolve r.path).unfit? = some failure) :
      Unopened s base r failure
  | system {cause : SystemError} (fit : (s.session.resolve r.path).isFit = true)
      (refused : s.files.openForWriting base (s.session.resolve r.path) r.append = .error cause) :
      Unopened s base r (.redirectTarget r.path cause)

theorem openOutlet_of_unopened {r : Redirect} {failure : Failure} (h : s.Unopened base r failure)
    (output : Output) : s.openOutlet base output (some r) = .error failure := by
  cases h with
  | unfit spoilt => simp [openOutlet, spoilt]
  | system fit refused => simp [openOutlet, Text.unfit?_eq_none.2 fit, refused]

theorem unopened_of_openOutlet {failure : Failure}
    (h : s.openOutlet base output redirect = .error failure) :
    ∃ r, redirect = some r ∧ s.Unopened base r failure := by
  unfold openOutlet at h
  split at h
  · cases h
  · next r =>
    simp only at h
    split at h
    · next hspoilt =>
      cases h
      exact ⟨r, rfl, .unfit hspoilt⟩
    · next hfit =>
      split at h
      · next cause hrefused =>
        cases h
        exact ⟨r, rfl, .system (Text.unfit?_eq_none.1 hfit) hrefused⟩
      · cases h

theorem openOutlet_cases (h : s.openOutlet base output redirect = .ok (sink, s')) :
    (redirect = none ∧ sink = .session output ∧ s' = s) ∨
      ∃ r handle, redirect = some r ∧ sink = .file handle ∧ s'.session = s.session ∧
        s.files.openForWriting base (s.session.resolve r.path) r.append =
          .ok (handle, s'.files) := by
  unfold openOutlet at h
  split at h
  · cases h
    exact .inl ⟨rfl, rfl, rfl⟩
  · next r =>
    simp only at h
    split at h
    · cases h
    · split at h
      · cases h
      · next handle files hopen =>
        cases h
        exact .inr ⟨r, handle, rfl, rfl, rfl, hopen⟩

theorem eq_of_openOutlet (h : s.openOutlet base output redirect = .ok (sink, s')) :
    sink = .session output ∨ ∃ handle, sink = .file handle := by
  rcases openOutlet_cases h with ⟨-, hsink, -⟩ | ⟨-, handle, -, hsink, -⟩
  · exact .inl hsink
  · exact .inr ⟨handle, hsink⟩

/-- Opening a target leaves the session alone, and of the files at most the target is changed. -/
theorem opened_of_openOutlet (h : s.openOutlet base output redirect = .ok (sink, s')) :
    s'.session = s.session ∧
      ((redirect = none ∧ sink = .session output ∧ s' = s) ∨
        ∃ r handle, redirect = some r ∧ sink = .file handle ∧
          s.files.locateNew base (s.session.resolve r.path) = .ok handle.place ∧
          s.files.Opened handle.place r.append s'.files) := by
  rcases openOutlet_cases h with ⟨hr, hsink, rfl⟩ | ⟨r, handle, hr, hsink, hsession, hopen⟩
  · exact ⟨rfl, .inl ⟨hr, hsink, rfl⟩⟩
  · exact ⟨hsession, .inr ⟨r, handle, hr, hsink, FileSystem.opened_of_openForWriting hopen⟩⟩

end State

namespace Shell
variable {sh : Shell} {line : Text} {s s₁ s₂ : State} {p : Pipeline} {c : Command}
  {cs : List Command}

/-! ### Looking up commands -/

/-- A command that is neither a builtin nor a program that can be found. -/
def Unknown (sh : Shell) (s : State) (c : Command) : Prop :=
  sh.builtin? c.name = none ∧ sh.program? s c.name = none

theorem stage?_eq_none_iff : sh.stage? s c = none ↔ sh.Unknown s c := by
  unfold stage? Unknown
  cases sh.builtin? c.name with
  | some b => simp
  | none => simp

theorem command_of_stage? {stage : Stage} (h : sh.stage? s c = some stage) : stage.command = c := by
  unfold stage? at h
  split at h
  · cases h
    rfl
  · obtain ⟨path, -, rfl⟩ := Option.map_eq_some_iff.1 h
    rfl

theorem stages_of_unknown {before after : List Command} (hbefore : ∀ d ∈ before, ¬sh.Unknown s d)
    (hc : sh.Unknown s c) : sh.stages s (before ++ c :: after) = .error c.name := by
  induction before with
  | nil => rw [List.nil_append, stages, stage?_eq_none_iff.2 hc]
  | cons d before ih =>
    obtain ⟨hd, hrest⟩ := List.forall_mem_cons.1 hbefore
    obtain ⟨stage, hstage⟩ := Option.ne_none_iff_exists'.1 (mt stage?_eq_none_iff.1 hd)
    rw [List.cons_append, stages, hstage]
    simp only [ih hrest]

theorem stages_of_known (h : ∀ c ∈ cs, ¬sh.Unknown s c) :
    ∃ stages, sh.stages s cs = .ok stages ∧ stages.map Stage.command = cs := by
  induction cs with
  | nil => exact ⟨[], rfl, rfl⟩
  | cons c cs ih =>
    obtain ⟨hc, hrest⟩ := List.forall_mem_cons.1 h
    obtain ⟨stages, hstages, hcommands⟩ := ih hrest
    obtain ⟨stage, hstage⟩ := Option.ne_none_iff_exists'.1 (mt stage?_eq_none_iff.1 hc)
    refine ⟨stage :: stages, by simp only [Shell.stages, hstage, hstages], ?_⟩
    rw [List.map_cons, hcommands, command_of_stage? hstage]

theorem first_unknown (h : ∃ c ∈ cs, sh.Unknown s c) :
    ∃ before c after, cs = before ++ c :: after ∧ (∀ d ∈ before, ¬sh.Unknown s d) ∧
      sh.Unknown s c := by
  obtain ⟨d, hd, hunknown⟩ := h
  induction cs with
  | nil => cases hd
  | cons c cs ih =>
    by_cases hc : sh.Unknown s c
    · exact ⟨[], c, cs, rfl, by simp, hc⟩
    · rcases List.mem_cons.1 hd with rfl | hd
      · exact absurd hunknown hc
      · obtain ⟨before, e, after, rfl, hbefore, he⟩ := ih hd
        exact ⟨c :: before, e, after, rfl, List.forall_mem_cons.2 ⟨hc, hbefore⟩, he⟩

theorem unknown_congr {other : Shell} (hbase : other.base = sh.base)
    (hnames : other.names = sh.names) : other.Unknown s c ↔ sh.Unknown s c := by
  have hbuiltin (t : Shell) : t.builtin? c.name = none ↔ c.name ∉ t.names := by
    simp only [builtin?, names, Option.map_eq_none_iff, List.find?_eq_none, List.mem_map,
      decide_eq_true_eq]
    exact ⟨fun h ⟨b, hb, hn⟩ => h b hb hn, fun h b hb hn => h ⟨b, hb, hn⟩⟩
  unfold Unknown program?
  rw [hbuiltin, hbuiltin, hnames, hbase]

/-! ### Running a pipeline -/

variable {stages : List Stage} {sink errors : Outlet} {failure : Failure}

theorem runPipeline_of_unknown {name : Text} (h : sh.stages s p.stages = .error name) :
    sh.runPipeline p s =
      { ended := (s.conclude (notFoundMessage name) notFoundStatus).1, sink := .session .stdout
        errors := .session .stderr
        state := (s.conclude (notFoundMessage name) notFoundStatus).2 } := by
  simp only [runPipeline, h]

theorem runPipeline_of_unopened_stdout (h : sh.stages s p.stages = .ok stages)
    (hout : s.openOutlet sh.base .stdout p.stdout = .error failure) :
    sh.runPipeline p s =
      { ended := .raised failure, sink := .session .stdout, errors := .session .stderr,
        state := s } := by
  simp only [runPipeline, h, hout]

theorem runPipeline_of_unopened_stderr (h : sh.stages s p.stages = .ok stages)
    (hout : s.openOutlet sh.base .stdout p.stdout = .ok (sink, s₁))
    (herr : s₁.openOutlet sh.base .stderr p.stderr = .error failure) :
    sh.runPipeline p s =
      { ended := .raised failure, sink := sink.close, errors := .session .stderr,
        state := s₁ } := by
  simp only [runPipeline, h, hout, herr]

theorem runPipeline_of_opened (h : sh.stages s p.stages = .ok stages)
    (hout : s.openOutlet sh.base .stdout p.stdout = .ok (sink, s₁))
    (herr : s₁.openOutlet sh.base .stderr p.stderr = .ok (errors, s₂)) :
    sh.runPipeline p s = (sh.runStages stages sink errors s₂).release := by
  simp only [runPipeline, h, hout, herr]

/-! ### Running a line -/

theorem runLine_of_blank (sh : Shell) (s : State) (h : Word.scan line = .ok []) :
    sh.runLine line s = (.returned 0, s) := by
  simp only [runLine, h]

theorem runLine_of_error (sh : Shell) (s : State) {e : ParseError}
    (hwords : Word.scan line ≠ .ok []) (h : Pipeline.ofLine line = .error e) :
    sh.runLine line s =
      s.conclude ("pipesh: parse error: ".runes ++ e.message) parseErrorStatus := by
  unfold Pipeline.ofLine at h
  unfold runLine
  cases hscan : Word.scan line with
  | error mark =>
    rw [hscan] at h
    cases h
    rfl
  | ok words =>
    rw [hscan] at h hwords
    cases words with
    | nil => exact absurd rfl hwords
    | cons w words =>
      replace h : Pipeline.ofWords (w :: words) = .error e := h
      simp only [h]

theorem runLine_of_pipeline (sh : Shell) (s : State) (h : Pipeline.ofLine line = .ok p) :
    sh.runLine line s = ((sh.runPipeline p s).ended, (sh.runPipeline p s).state) := by
  unfold Pipeline.ofLine at h
  unfold runLine
  cases hscan : Word.scan line with
  | error mark =>
    rw [hscan] at h
    cases h
  | ok words =>
    rw [hscan] at h
    cases words with
    | nil => cases h
    | cons w words =>
      replace h : Pipeline.ofWords (w :: words) = .ok p := h
      simp only [h]

end Shell
end PipelineShell
