import PipelineShell.Proofs.Execution.InTurn
import PipelineShell.Proofs.FileSystem.Handle

/-!
# Where the bytes go

A write appends to the stream or file of its outlet and changes no other, as long as the programs
leave alone the files that are held open.
-/

namespace PipelineShell
open Scene (Step Steps)

/-- Where the bytes that are written to an outlet can be looked up later. -/
inductive Target
  | output (output : Output)
  | file (place : Place)
  deriving DecidableEq

/-- Whether the target is an output of the session or one of some files. -/
def Target.Among (held : List Place) : Target → Prop
  | .output _ => True
  | .file place => place ∈ held

/-- All bytes that are at a target. -/
def State.bytesAt (s : State) : Target → Bytes
  | .output o => s.output o
  | .file place => (s.files.bytesAt? place).getD []

theorem State.bytesAt_congr {s s' : State} {place : Place}
    (h : s'.files.get? place = s.files.get? place) :
    s'.bytesAt (.file place) = s.bytesAt (.file place) :=
  congrArg (Option.getD · []) (FileSystem.bytesAt?_congr h)

/-! ### One outlet -/

namespace Outlet

/-- What goes on in a channel is a matter of the stages alone. -/
def target? : Outlet → Option Target
  | .session o => some (.output o)
  | .file handle => some (.file handle.place)
  | .channel _ => none

theorem target?_eq_output_iff {sink : Outlet} {o : Output} :
    sink.target? = some (.output o) ↔ sink = .session o := by
  cases sink <;> simp [target?]

theorem target?_eq_file_iff {sink : Outlet} {place : Place} :
    sink.target? = some (.file place) ↔ ∃ handle, sink = .file handle ∧ handle.place = place := by
  cases sink <;> simp [target?]

theorem handle?_eq_some_iff {sink : Outlet} {handle : Handle} :
    sink.handle? = some handle ↔ sink = .file handle := by
  cases sink <;> simp [handle?]

/-- All that is written to the outlet will be added at its target. -/
structure Sound (sink : Outlet) (s : State) : Prop where
  isOpen : sink.isOpen = true
  atEnd : ∀ handle, sink = .file handle → handle.AtEnd s.files

variable {sink sink' : Outlet} {s s' : State} {data : Bytes}

theorem Sound.congr (h : sink.Sound s)
    (hget : ∀ place, sink.target? = some (.file place) → s'.files.get? place = s.files.get? place) :
    sink.Sound s' := by
  refine ⟨h.isOpen, fun handle hsink => (h.atEnd handle hsink).congr (hget _ ?_)⟩
  rw [hsink, target?]

theorem sound_session (o : Output) (s : State) : (session o).Sound s := ⟨rfl, nofun⟩

theorem Sound.accepts (h : sink.Sound s) : sink.accepts = true := by
  cases sink with
  | session o => rfl
  | file handle => simp [Outlet.accepts, (h.atEnd handle rfl).room]
  | channel c => exact h.isOpen

theorem Sound.write_of_put (h : sink.Sound s) (hput : Put data s sink sink' s') :
    sink.write data s = .ok (sink', s') := by
  cases hput with
  | taken hw => exact hw
  | @lost handle full lost =>
    have hroom := (h.atEnd handle rfl).room
    rw [full] at hroom
    cases hroom

theorem Sound.write (h : sink.Sound s) (hw : sink.write data s = .ok (sink', s')) :
    sink'.Sound s' ∧ sink'.target? = sink.target? ∧
      (∀ t, s'.bytesAt t = s.bytesAt t ++ if sink.target? = some t then data else []) ∧
      ∀ place, sink.target? ≠ some (.file place) →
        s'.files.get? place = s.files.get? place := by
  cases sink with
  | session o =>
    obtain ⟨rfl, rfl⟩ : session o = sink' ∧ s.emit o data = s' := by simpa [Outlet.write] using hw
    have hfiles : (s.emit o data).files = s.files := by cases o <;> rfl
    refine ⟨sound_session o _, rfl, fun t => ?_, fun place _ => by rw [hfiles]⟩
    cases t with
    | output o' => simp only [State.bytesAt, State.output_emit, target?, Option.some.injEq,
        Target.output.injEq]
    | file place => simp [State.bytesAt, hfiles, target?]
  | file handle =>
    rcases hwrite : handle.write data s.files with ⟨handle', files⟩
    have hroom : handle.refuses data = false := by
      simp [Handle.refuses, (h.atEnd handle rfl).room]
    simp only [Outlet.write, hroom, hwrite, Bool.false_eq_true, ↓reduceIte, Except.ok.injEq,
      Prod.mk.injEq] at hw
    obtain ⟨rfl, rfl⟩ := hw
    obtain ⟨hplace, hend, hbytes, hothers⟩ := (h.atEnd handle rfl).write hwrite
    obtain ⟨bytes, hsome⟩ := Option.isSome_iff_exists.1 (h.atEnd handle rfl).regular
    refine ⟨⟨rfl, fun other hother => ?_⟩, by rw [target?, hplace, target?], fun t => ?_,
      fun place hne => hothers place fun heq => hne (by rw [target?, heq])⟩
    · rw [← Outlet.file.inj hother]
      exact hend
    · cases t with
      | output o => simp [State.bytesAt, State.output, target?]
      | file place =>
        by_cases heq : place = handle.place
        · rw [heq, target?, if_pos rfl]
          simp only [State.bytesAt, hbytes, hsome, Option.map_some, Option.getD_some]
        · have hne : (file handle).target? ≠ some (.file place) := by
            simpa [target?] using Ne.symm heq
          rw [if_neg hne, List.append_nil]
          exact State.bytesAt_congr (hothers place heq)
  | channel c =>
    have hopen := (wrote_of_write hw).isOpen
    cases wrote_of_write hw with
    | channel closed content => exact ⟨⟨hopen, by simp⟩, rfl, by simp [target?], fun _ _ => rfl⟩

end Outlet

/-! ### Scenes -/

namespace Scene

def sinkTarget? (a : Scene) : Option Target := a.sink.bind Outlet.target?

/-- The outlets of the scene do not get in each other's way. -/
structure Sound (a : Scene) : Prop where
  sink : ∀ k, a.sink = some k → k.Sound a.state
  errors : a.errors.Sound a.state
  apart : ∀ t, a.sinkTarget? = some t → a.errors.target? ≠ some t

/-- From one scene to the other these bytes have been written to the sink and to the error outlet.
They have arrived, and of what is held nothing else has changed. -/
structure Captures (held : List Place) (a b : Scene) (out err : Bytes) : Prop where
  sound : b.Sound
  sinkTarget : b.sinkTarget? = a.sinkTarget?
  errorsTarget : b.errors.target? = a.errors.target?
  bytes : ∀ t, t.Among held → b.state.bytesAt t = a.state.bytesAt t ++
    (if a.sinkTarget? = some t then out else []) ++ if a.errors.target? = some t then err else []
  others : ∀ place ∈ held, a.sinkTarget? ≠ some (.file place) →
    a.errors.target? ≠ some (.file place) → b.state.files.get? place = a.state.files.get? place

variable {base : Text} {builtins : List Text} {held : List Place} {a b c : Scene} {d : Deed}
  {ds : List Deed} {out err out' err' : Bytes}

theorem Captures.refl (held : List Place) (h : a.Sound) : Captures held a a [] [] :=
  ⟨h, rfl, rfl, fun t _ => by simp, fun _ _ _ _ => rfl⟩

theorem Captures.trans (ha : a.Sound) (h : Captures held a b out err)
    (k : Captures held b c out' err') : Captures held a c (out ++ out') (err ++ err') where
  sound := k.sound
  sinkTarget := k.sinkTarget.trans h.sinkTarget
  errorsTarget := k.errorsTarget.trans h.errorsTarget
  bytes t ht := by
    rw [k.bytes t ht, h.bytes t ht, h.sinkTarget, h.errorsTarget]
    -- no target is that of both outlets
    by_cases hs : a.sinkTarget? = some t
    · have he := ha.apart t hs
      simp [hs, he]
    · simp only [hs, ↓reduceIte, List.append_nil]
      split <;> simp
  others place hplace hs he := by
    have hs' : b.sinkTarget? ≠ some (.file place) := by rwa [h.sinkTarget]
    have he' : b.errors.target? ≠ some (.file place) := by rwa [h.errorsTarget]
    rw [k.others place hplace hs' he', h.others place hplace hs he]

/-- The targets of the outlets are held open. -/
def Holds (held : List Place) (a : Scene) : Prop :=
  ∀ place, a.sinkTarget? = some (.file place) ∨ a.errors.target? = some (.file place) →
    place ∈ held

/-- The outlets are the same, and so are what the session has been given and all that is held. -/
theorem Captures.of_quiet (ha : a.Sound) (hheld : a.Holds held) (hsink : b.sink = a.sink)
    (herrors : b.errors = a.errors)
    (hfiles : ∀ place ∈ held, b.state.files.get? place = a.state.files.get? place)
    (houtput : ∀ o, b.state.output o = a.state.output o) : Captures held a b [] [] := by
  have hsound : b.Sound := by
    refine ⟨fun k hk => ?_, ?_, by rw [sinkTarget?, hsink, herrors]; exact ha.apart⟩
    · rw [hsink] at hk
      refine (ha.sink k hk).congr fun place hplace => hfiles place (hheld place (.inl ?_))
      rw [sinkTarget?, hk]
      exact hplace
    · rw [herrors]
      exact ha.errors.congr fun place hplace => hfiles place (hheld place (.inr hplace))
  refine ⟨hsound, by rw [sinkTarget?, hsink, sinkTarget?], by rw [herrors], fun t ht => ?_,
    fun place hplace _ _ => hfiles place hplace⟩
  rw [ite_self, ite_self, List.append_nil, List.append_nil]
  cases t with
  | output o => exact houtput o
  | file place => exact State.bytesAt_congr (hfiles place ht)

theorem Captures.of_write (held : List Place) {feed : Feed} {sink sink' errors : Outlet}
    {s s' : State} {data : Bytes} (ha : Sound ⟨feed, some sink, errors, s⟩)
    (hput : Outlet.Put data s sink sink' s') :
    Captures held ⟨feed, some sink, errors, s⟩ ⟨feed, some sink', errors, s'⟩ data [] := by
  have hsound := ha.sink sink rfl
  obtain ⟨hsink, htarget, hbytes, hothers⟩ := hsound.write (hsound.write_of_put hput)
  have herrors : errors.Sound s' := ha.errors.congr fun place hplace =>
    hothers place fun hsame => ha.apart (.file place) hsame hplace
  refine ⟨⟨?_, herrors, ?_⟩, htarget, rfl, fun t _ => ?_, fun place _ hs _ => hothers place hs⟩
  · intro k hk
    rw [← Option.some.inj hk]
    exact hsink
  · intro t ht
    exact ha.apart t (htarget.symm.trans ht)
  · rw [hbytes t, ite_self, List.append_nil]
    rfl

theorem Captures.of_complain (held : List Place) {feed : Feed} {sink : Option Outlet}
    {errors errors' : Outlet} {s s' : State} {data : Bytes} (ha : Sound ⟨feed, sink, errors, s⟩)
    (hput : Outlet.Put data s errors errors' s') :
    Captures held ⟨feed, sink, errors, s⟩ ⟨feed, sink, errors', s'⟩ [] data := by
  obtain ⟨herrors, htarget, hbytes, hothers⟩ := ha.errors.write (ha.errors.write_of_put hput)
  refine ⟨⟨?_, herrors, ?_⟩, rfl, htarget, fun t _ => ?_, fun place _ _ he => hothers place he⟩
  · intro k hk
    refine (ha.sink k hk).congr fun place hplace => hothers place ?_
    exact ha.apart (.file place) (by rw [sinkTarget?, hk]; exact hplace)
  · intro t ht
    rw [htarget]
    exact ha.apart t ht
  · rw [hbytes t, ite_self, List.append_nil]

theorem Step.captures (h : Step base builtins d a b) (ha : a.Sound) (hheld : a.Holds held)
    (hd : ∀ files, d ≠ .leave files) : Captures held a b d.written d.complained := by
  have hquiet {sink : Option Outlet} {errors : Outlet} {feed feed' : Feed} {s s' : State}
      (hs : Sound ⟨feed, sink, errors, s⟩) (hh : Holds held ⟨feed, sink, errors, s⟩)
      (hfiles : s'.files = s.files) (houtput : ∀ o, s'.output o = s.output o) :
      Captures held ⟨feed, sink, errors, s⟩ ⟨feed', sink, errors, s'⟩ [] [] :=
    .of_quiet hs hh rfl rfl (fun place _ => by rw [hfiles]) houtput
  cases h with
  | readSession answer => exact hquiet ha hheld rfl fun o => by cases o <;> rfl
  | readBytes answer => exact hquiet ha hheld rfl fun o => rfl
  | handOn => exact ⟨ha, rfl, rfl, fun t _ => by simp [sinkTarget?, Deed.complained],
      fun _ _ _ _ => rfl⟩
  | write hput => exact .of_write held ha hput
  | complain hput => exact .of_complain held ha hput
  | look => exact hquiet ha hheld rfl fun o => rfl
  | enter => exact hquiet ha hheld rfl fun o => by cases o <;> rfl
  | remember => exact hquiet ha hheld rfl fun o => by cases o <;> rfl
  | leave => exact absurd rfl (hd _)

theorem Captures.holds (h : Captures held a b out err) (hheld : a.Holds held) : b.Holds held := by
  intro place hplace
  rw [h.sinkTarget, h.errorsTarget] at hplace
  exact hheld place hplace

theorem Steps.captures (h : Steps base builtins ds a b) (ha : a.Sound) (hheld : a.Holds held)
    (hds : ∀ d ∈ ds, ∀ files, d ≠ .leave files) :
    Captures held a b (ds.flatMap Deed.written) (ds.flatMap Deed.complained) := by
  induction h with
  | nil a => exact .refl held ha
  | cons step rest ih =>
    obtain ⟨hd, hrest⟩ := List.forall_mem_cons.1 hds
    have hfirst := step.captures ha hheld hd
    rw [List.flatMap_cons, List.flatMap_cons]
    exact hfirst.trans ha (ih hfirst.sound (hfirst.holds hheld) hrest)

theorem Sound.feed (ha : a.Sound) (feed : Feed) : Sound { a with feed } :=
  ⟨ha.sink, ha.errors, ha.apart⟩

theorem Captures.feed (h : Captures held a b out err) (feed feed' : Feed) :
    Captures held { a with feed } { b with feed := feed' } out err :=
  ⟨h.sound.feed feed', h.sinkTarget, h.errorsTarget, h.bytes, h.others⟩

/-- A sink that waits for a later stage is as good as before while others write to channels. -/
theorem Captures.aside (h : Captures held a b out err) (hchannel : a.sinkTarget? = none)
    {sink : Outlet} (ha : Sound { a with sink := some sink })
    (hheld : ∀ place, sink.target? = some (.file place) → place ∈ held) :
    Captures held { a with sink := some sink } { b with sink := some sink } [] err := by
  have hsink : sink.Sound b.state := by
    refine (ha.sink sink rfl).congr fun place hplace => h.others place (hheld place hplace) ?_ ?_
    · rw [hchannel]
      nofun
    · exact ha.apart (.file place) hplace
  refine ⟨⟨?_, h.sound.errors, ?_⟩, rfl, h.errorsTarget, fun t ht => ?_,
    fun place hplace _ he => ?_⟩
  · intro k hk
    rw [← Option.some.inj hk]
    exact hsink
  · intro t ht
    rw [h.errorsTarget]
    exact ha.apart t ht
  · rw [h.bytes t ht, hchannel, if_neg nofun, ite_self]
  · refine h.others place hplace ?_ he
    rw [hchannel]
    nofun

end Scene

/-! ### What has arrived in the end -/

namespace State

/-- The bytes have been added where the outlet leads. -/
def Gained (s s' : State) (data : Bytes) : Outlet → Prop
  | .session o => s'.output o = s.output o ++ data
  | .file handle => s'.files.bytesAt? handle.place =
      (s.files.bytesAt? handle.place).map (· ++ data)
  | .channel _ => True

/-- These bytes have been added where the sink leads and those where the error outlet leads, and no
other output of the session has gained anything. -/
structure Arrived (s s' : State) (sink errors : Outlet) (out err : Bytes) : Prop where
  atSink : s.Gained s' out sink
  atErrors : s.Gained s' err errors
  elsewhere : ∀ o, sink ≠ .session o → errors ≠ .session o → s'.output o = s.output o

theorem Gained.of_bytesAt {s s' : State} {data : Bytes} {outlet outlet' : Outlet}
    (hs : outlet.Sound s) (hs' : outlet'.Sound s') (htarget : outlet'.target? = outlet.target?)
    (hbytes : ∀ t, outlet.target? = some t → s'.bytesAt t = s.bytesAt t ++ data) :
    s.Gained s' data outlet := by
  cases outlet with
  | session o => exact hbytes (.output o) rfl
  | channel c => trivial
  | file handle =>
    cases outlet' with
    | session o => simp [Outlet.target?] at htarget
    | channel c => simp [Outlet.target?] at htarget
    | file handle' =>
      have hplace : handle'.place = handle.place := by simpa [Outlet.target?] using htarget
      obtain ⟨old, hold⟩ := Option.isSome_iff_exists.1 (hs.atEnd handle rfl).regular
      obtain ⟨new, hnew⟩ := Option.isSome_iff_exists.1 (hs'.atEnd handle' rfl).regular
      rw [hplace] at hnew
      have h := hbytes (.file handle.place) rfl
      simp only [bytesAt, hold, hnew, Option.getD_some] at h
      rw [Gained, hold, hnew, h, Option.map_some]

end State

theorem Scene.Captures.arrived {held : List Place} {feed feed' : Feed}
    {sink sink' errors errors' : Outlet} {s s' : State} {out err : Bytes}
    (h : Scene.Captures held ⟨feed, some sink, errors, s⟩ ⟨feed', some sink', errors', s'⟩ out err)
    (ha : Scene.Sound ⟨feed, some sink, errors, s⟩)
    (hheld : Scene.Holds held ⟨feed, some sink, errors, s⟩) :
    s.Arrived s' sink errors out err := by
  have hamong (t : Target) (ht : sink.target? = some t ∨ errors.target? = some t) :
      t.Among held := by
    cases t with
    | output o => trivial
    | file place => exact hheld place ht
  refine ⟨?_, ?_, fun o hs he => ?_⟩
  · refine .of_bytesAt (ha.sink sink rfl) (h.sound.sink sink' rfl) h.sinkTarget fun t ht => ?_
    rw [h.bytes t (hamong t (.inl ht)), if_neg (ha.apart t ht), List.append_nil]
    exact congrArg (_ ++ ·) (if_pos ht)
  · refine .of_bytesAt ha.errors h.sound.errors h.errorsTarget fun t ht => ?_
    have hne : Scene.sinkTarget? ⟨feed, some sink, errors, s⟩ ≠ some t := fun hs => ha.apart t hs ht
    rw [h.bytes t (hamong t (.inr ht)), if_neg hne, if_pos ht, List.append_nil]
  · have hs' : Scene.sinkTarget? ⟨feed, some sink, errors, s⟩ ≠ some (.output o) :=
      mt Outlet.target?_eq_output_iff.1 hs
    have he' : errors.target? ≠ some (.output o) := mt Outlet.target?_eq_output_iff.1 he
    have hbytes := h.bytes (.output o) trivial
    rw [if_neg hs', if_neg he', List.append_nil, List.append_nil] at hbytes
    exact hbytes

/-! ### One stage -/

/-- What has been written to one of the outputs. -/
def Deed.wrote (o : Output) (d : Deed) : Bytes :=
  match o with
  | .stdout => d.written
  | .stderr => d.complained

theorem Behaviour.ne_leave_of_mem_deeds (base : Text) (builtins : List Text) (b : Behaviour)
    (w : Wiring) (s : State) : ∀ d ∈ b.deeds base builtins w s, ∀ files, d ≠ .leave files := by
  induction b generalizing w s with
  | done status => simp [deeds]
  | fail failure => simp [deeds]
  | read size next ih =>
    obtain ⟨source, sink, errors⟩ := w
    exact List.forall_mem_cons.2 ⟨by simp, ih _ _ _⟩
  | write data next ih =>
    rw [deeds]
    split
    · split <;> simp
    · exact List.forall_mem_cons.2 ⟨by simp, ih _ _⟩
  | complain data next ih =>
    rw [deeds]
    split
    · split <;> simp
    · exact List.forall_mem_cons.2 ⟨by simp, ih _ _⟩
  | look next ih => exact List.forall_mem_cons.2 ⟨by simp, ih _ _ _⟩
  | enter directory next ih => exact List.forall_mem_cons.2 ⟨by simp, ih _ _⟩
  | remember entries next ih => exact List.forall_mem_cons.2 ⟨by simp, ih _ _⟩

theorem Outputs.ne_leave {bytes : Output → Bytes} {ds : List Deed} (h : Outputs bytes ds) {d : Deed}
    (hd : d ∈ ds) (files : FileSystem) : d ≠ .leave files := by
  rintro rfl
  cases h.only _ hd

theorem Outputs.captures {base : Text} {builtins : List Text} {held : List Place} {feed : Feed}
    {sink errors : Outlet} {s : State} {files : FileSystem} {b : Scene} {bytes : Output → Bytes}
    {ds : List Deed} (h : Outputs bytes ds) (hsound : Scene.Sound ⟨feed, some sink, errors, s⟩)
    (hheld : Scene.Holds held ⟨feed, some sink, errors, s⟩)
    (hspared : ∀ place ∈ held, files.get? place = s.files.get? place)
    (hsteps : Steps base builtins ds ⟨feed, some sink, errors, { s with files }⟩ b) :
    Scene.Captures held ⟨feed, some sink, errors, s⟩ b (bytes .stdout) (bytes .stderr) := by
  have hleft : Scene.Captures held ⟨feed, some sink, errors, s⟩
      ⟨feed, some sink, errors, { s with files }⟩ [] [] :=
    .of_quiet hsound hheld rfl rfl hspared fun o => by cases o <;> rfl
  have hwrites := hsteps.captures hleft.sound (hleft.holds hheld) fun d hd => h.ne_leave hd
  rw [h.written, h.complained] at hwrites
  exact hleft.trans hsound hwrites

namespace StageRun
variable {sh : Shell} {held : List Place} {r : StageRun}

/-- What a stage has written to one of its outputs, wherever that leads: a builtin what it wrote up
to its end, a program what the system says of it. -/
def wrote (sh : Shell) (held : List Place) (r : StageRun) (o : Output) : Bytes :=
  match r.stage with
  | .builtin c b =>
    ((b c.args).deeds sh.base sh.names r.wiring r.before).flatMap (Deed.wrote o)
  | .external c executable =>
    match sh.programs.launch (Shell.invocation r.before held c executable) r.before.files with
    | .error _ => []
    | .ok process =>
      (sh.programs.run [(process, {})] (r.wiring.source.before.getD []) r.before.files).bytes o

/-- If the stage is a program, it is started, and it leaves the files alone that are held open. -/
def Spares (sh : Shell) (held : List Place) (r : StageRun) : Prop :=
  ∀ c executable, r.stage = .external c executable →
    ∃ process,
      sh.programs.launch (Shell.invocation r.before held c executable) r.before.files =
        .ok process ∧
      ∀ place ∈ held,
        (sh.programs.run [(process, {})] (r.wiring.source.before.getD [])
          r.before.files).files.get? place = r.before.files.get? place

theorem Made.captures (h : r.Made sh held) (hspares : r.Spares sh held)
    (hsound : (r.wiring.scene r.before).Sound) (hheld : (r.wiring.scene r.before).Holds held) :
    Scene.Captures held (r.wiring.scene r.before) (r.left.scene r.after) (r.wrote sh held .stdout)
      (r.wrote sh held .stderr) := by
  unfold Made at h
  cases hstage : r.stage with
  | builtin c b =>
    rw [hstage, Shell.runStage] at h
    rcases hrun : (b c.args).run sh.base sh.names r.wiring r.before with ⟨ended, left, after⟩
    rw [hrun] at h
    simp only [Prod.mk.injEq] at h
    obtain ⟨-, rfl, rfl⟩ := h
    have hsteps := ((b c.args).steps_deeds hrun).1
    simp only [wrote, hstage]
    exact hsteps.captures hsound hheld ((b c.args).ne_leave_of_mem_deeds _ _ _ _)
  | external c executable =>
    obtain ⟨process, hl, hspared⟩ := hspares c executable hstage
    obtain ⟨w', s', ds, hrun, hout, hsteps, -⟩ :=
      sh.runProgram_outputs hl (hsound.sink _ rfl).isOpen hsound.errors.isOpen
    rw [hstage, Shell.runStage, hrun] at h
    simp only [Prod.mk.injEq] at h
    obtain ⟨-, rfl, rfl⟩ := h
    simp only [wrote, hstage, hl]
    generalize sh.programs.run [(process, {})] _ _ = effect at *
    exact (hout.captures (hsound.feed (.bytes [])) hheld hspared hsteps).feed _ _

end StageRun

/-! ### Stages in turn -/

namespace Shell
variable {sh : Shell} {held : List Place} {source : Inlet} {sink errors : Outlet} {s : State}
  {stages : List Stage} {runs : List StageRun} {run : Run}

/-- What the last stage has written to its output; nothing if it was not reached. -/
def lastWritten (sh : Shell) (held : List Place) (stages : List Stage) (runs : List StageRun) :
    Bytes :=
  match runs[stages.length - 1]? with
  | none => []
  | some r => r.wrote sh held .stdout

/-- What all stages have written to their error outputs, in the order of the stages. -/
def complaints (sh : Shell) (held : List Place) (runs : List StageRun) : Bytes :=
  runs.flatMap fun r => r.wrote sh held .stderr

/-- A stage in front of others, which writes to a channel of its own, has only its error output
lead anywhere. -/
theorem captures_in_front {stage : Stage} {r : StageRun}
    (hrun : sh.stageRun held stage ⟨source, .channel {}, errors⟩ s = r)
    (hspares : r.Spares sh held) (hsound : Scene.Sound ⟨.session, some sink, errors, s⟩)
    (hheld : Scene.Holds held ⟨.session, some sink, errors, s⟩) :
    Scene.Captures held ⟨.session, some sink, errors, s⟩
      ⟨.session, some sink, r.left.errors, r.after⟩ [] (r.wrote sh held .stderr) := by
  obtain ⟨hmade, -, rfl, hwiring⟩ := of_stageRun hrun
  have hchannel : (r.wiring.scene r.before).Sound := by
    rw [hwiring]
    refine ⟨fun k hk => ?_, hsound.errors, nofun⟩
    rw [← Option.some.inj hk]
    exact ⟨rfl, nofun⟩
  have hplaces : (r.wiring.scene r.before).Holds held := by
    rw [hwiring]
    rintro place (h | h)
    · cases h
    · exact hheld place (.inr h)
  have hcaptures := hmade.captures hspares hchannel hplaces
  rw [hwiring] at hcaptures
  exact ((hcaptures.feed .session .session).aside rfl hsound fun place h => hheld place (.inl h))

theorem InTurn.captures (h : sh.InTurn held source sink errors s stages runs run)
    (hspares : ∀ r ∈ runs, r.Spares sh held)
    (hsound : Scene.Sound ⟨.session, some sink, errors, s⟩)
    (hheld : Scene.Holds held ⟨.session, some sink, errors, s⟩) :
    Scene.Captures held ⟨.session, some sink, errors, s⟩
      ⟨.session, some run.sink, run.errors, run.state⟩ (sh.lastWritten held stages runs)
      (sh.complaints held runs) := by
  -- the scene has the sink of the pipeline throughout, though only the last stage is wired to it
  induction h with
  | @last source sink errors s stage r hrun =>
    obtain ⟨hmade, -, rfl, hwiring⟩ := of_stageRun hrun
    have hscene : r.wiring.scene r.before = ⟨source.feed, some sink, errors, r.before⟩ := by
      rw [hwiring]
      rfl
    have hcaptures := hmade.captures (hspares r (List.mem_singleton_self r))
      (by rw [hscene]; exact hsound.feed _) (by rw [hscene]; exact hheld)
    rw [hscene] at hcaptures
    rw [complaints, List.flatMap_singleton]
    exact hcaptures.feed .session .session
  | @broken source sink errors s stage next rest r hrun unfinished =>
    have hfront := captures_in_front hrun (hspares r (List.mem_singleton_self r)) hsound hheld
    rw [complaints, List.flatMap_singleton]
    exact hfront
  | @next source sink errors s stage next rest r runs st others hrun finished behind ih =>
    obtain ⟨hr, hrest⟩ := List.forall_mem_cons.1 hspares
    have hfront := captures_in_front hrun hr hsound hheld
    have hbehind := ih hrest hfront.sound (hfront.holds hheld)
    rw [complaints, List.flatMap_cons]
    exact hfront.trans hsound hbehind

end Shell
end PipelineShell
