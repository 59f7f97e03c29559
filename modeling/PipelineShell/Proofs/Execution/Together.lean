import PipelineShell.Proofs.Execution.Capture
import PipelineShell.Proofs.Execution.Network

/-!
# What `_run_shell_group` wires

Each program reads from the one before it, the first from the session; the output of the last goes
to `out_sink` and the error output of each to `err_sink`, directly or through a pump.
-/

namespace PipelineShell

/-! ### Writing to open files -/

/-- The outputs of some programs lead to the two outlets of a wiring, or to pipes between them. -/
def Ends.LeadTo (w : Wiring) (ends : List Ends) : Prop :=
  ∀ e ∈ ends, ∀ o, e.outlet o = .pipe ∨ e.outlet o = (w.outlet o).endpoint

/-- Those outlets of a wiring that are open files are written at their ends, and they are not the
same file. -/
structure Wiring.Apart (w : Wiring) (now : Output → Handle → Handle) (fs : FileSystem) : Prop where
  place : ∀ o h, w.outlet o = .file h → (now o h).place = h.place
  atEnd : ∀ o h, w.outlet o = .file h → (now o h).AtEnd fs
  apart : ∀ o o' h h', o ≠ o' → w.outlet o = .file h → w.outlet o' = .file h' → h.place ≠ h'.place

section Store

variable {ends : List Ends} {w : Wiring} {now : Output → Handle → Handle} {fs fs' : FileSystem}
  {h h' : Handle} {data : Bytes} {o : Output}

theorem Outlet.endpoint_eq_file_iff {outlet : Outlet} :
    outlet.endpoint = .file h ↔ outlet = .file h := by
  cases outlet <;> simp [endpoint]

theorem Outlet.endpoint_ne_pipe (outlet : Outlet) : outlet.endpoint ≠ .pipe := by
  cases outlet <;> simp [endpoint]

theorem Ends.LeadTo.outlet_eq_file (hends : LeadTo w ends) {piece : Piece}
    (hend : piece.end? ends = some (.file h)) : w.outlet piece.output = .file h := by
  obtain ⟨e, he, hout⟩ := Option.map_eq_some_iff.1 hend
  rcases hends e (List.mem_of_getElem? he) piece.output with hpipe | hsame
  · cases hpipe.symm.trans hout
  · exact Outlet.endpoint_eq_file_iff.1 (hsame.symm.trans hout)

theorem Wiring.Apart.write (hapart : w.Apart now fs) (ho : w.outlet o = .file h)
    (hw : (now o h).write data fs = (h', fs')) :
    w.Apart (Piece.moved now o h h') fs' ∧
      fs'.bytesAt? h.place = (fs.bytesAt? h.place).map (· ++ data) ∧
      ∀ q, q ≠ h.place → fs'.get? q = fs.get? q := by
  obtain ⟨hsame, hend, hbytes, hothers⟩ := (hapart.atEnd o h ho).write hw
  rw [hapart.place o h ho] at hsame hbytes hothers
  refine ⟨⟨fun o' k hk => ?_, fun o' k hk => ?_, hapart.apart⟩, hbytes, hothers⟩
  · unfold Piece.moved
    split
    · next hmoved => rw [hsame, hmoved.2]
    · exact hapart.place o' k hk
  · unfold Piece.moved
    split
    · exact hend
    · next hother =>
      have hne : o' ≠ o := by
        rintro rfl
        exact hother ⟨rfl, Outlet.file.inj (hk.symm.trans ho)⟩
      refine (hapart.atEnd o' k hk).congr (hothers _ ?_)
      rw [hapart.place o' k hk]
      exact hapart.apart o' o k h hne hk ho

theorem Wiring.Apart.bytesAt?_store (hapart : w.Apart now fs) (hends : Ends.LeadTo w ends)
    (pieces : List Piece) (ho : w.outlet o = .file h) :
    (Piece.store ends now fs pieces).bytesAt? h.place =
      (fs.bytesAt? h.place).map (· ++ Piece.bytesTo ends o (.file h) pieces) := by
  -- each write moves an open file, so how these stand varies along with the files
  induction pieces generalizing now fs with
  | nil => simp [Piece.store, Piece.bytesTo, Piece.bytes]
  | cons piece rest ih =>
    rw [Piece.store, Piece.bytesTo_cons]
    split
    · next k hend =>
      have hk := hends.outlet_eq_file hend
      rcases hw : (now piece.output k).write piece.data fs with ⟨k', fs'⟩
      obtain ⟨hmoved, hbytes, hothers⟩ := hapart.write hk hw
      dsimp only
      rw [ih hmoved]
      by_cases heq : piece.output = o
      · subst heq
        obtain rfl : k = h := Outlet.file.inj (hk.symm.trans ho)
        rw [hbytes, Option.map_map, if_pos ⟨rfl, hend⟩]
        congr 1
        funext bytes
        exact List.append_assoc _ _ _
      · rw [if_neg (mt And.left heq), List.nil_append]
        rw [FileSystem.bytesAt?_congr (hothers _ (hapart.apart o _ h k (Ne.symm heq) ho hk))]
    · next hend =>
      rw [if_neg (fun hfile => hend h hfile.2), List.nil_append]
      exact ih hapart

end Store

/-! ### Passing on -/

theorem State.emit_nil (s : State) (o : Output) : s.emit o [] = s := by
  cases o <;> simp [emit]

theorem State.emit_emit (s : State) (o : Output) (data more : Bytes) :
    (s.emit o data).emit o more = s.emit o (data ++ more) := by
  cases o <;> simp [emit]

theorem Outlet.puts_session {o : Output} {pieces : List Bytes} {s : State} {t : Outlet × State}
    (h : Puts pieces (.session o, s) t) : t = (.session o, s.emit o pieces.flatten) := by
  generalize hstart : (Outlet.session o, s) = start at h
  induction h generalizing s with
  | nil target => rw [← hstart, List.flatten_nil, State.emit_nil]
  | @cons piece pieces sink sink' s₁ s' target put _ ih =>
    obtain ⟨rfl, rfl⟩ := Prod.mk.inj hstart
    cases put with
    | taken hw =>
      obtain ⟨rfl, rfl⟩ : session o = sink' ∧ s.emit o piece = s' := by simpa [write] using hw
      rw [ih rfl, State.emit_emit, List.flatten_cons]

theorem Outlet.relay_session (o : Output) (data : Bytes) (s : State) :
    (session o).relay data s = (session o, s.emit o data) := by
  have hopen : (session o).isOpen = true := rfl
  obtain ⟨pieces, rfl, hputs⟩ := relay_puts hopen data s
  exact puts_session hputs

/-- What is passed on to outputs of the session is added to them, and the files stay as they are. -/
theorem Wiring.deliver_session {w : Wiring} {output : List Piece}
    (hsession : ∀ piece ∈ output, w.outlet piece.output = .session piece.output) (s : State) :
    (w.deliver s [] output).2.files = s.files ∧
      ∀ o, (w.deliver s [] output).2.output o = s.output o ++ Piece.bytes o output := by
  induction output generalizing s with
  | nil => exact ⟨rfl, by simp [deliver, Piece.bytes]⟩
  | cons piece rest ih =>
    obtain ⟨stage, o, data⟩ := piece
    obtain ⟨hhere, hrest⟩ := List.forall_mem_cons.1 hsession
    obtain ⟨hfiles, houtput⟩ := ih hrest (s.emit o data)
    have hemitted : (s.emit o data).files = s.files := by cases o <;> rfl
    have hsame : w.withOutlet o (.session o) = w := by
      rw [← hhere]
      cases o <;> rfl
    have hdeliver : w.deliver s [] (⟨stage, o, data⟩ :: rest) =
        w.deliver (s.emit o data) [] rest := by
      rw [deliver, hhere, Outlet.relay_session]
      simp [hsame, Outlet.accepts]
    rw [hdeliver]
    refine ⟨hfiles.trans hemitted, fun o' => ?_⟩
    rw [houtput, State.output_emit, Piece.bytes_cons, List.append_assoc]

/-- What programs write side by side to the two outlets of a pipeline arrives there, once the shell
has passed on what came out of the pipes that it empties. -/
theorem Programs.SideBySide.arrived {programs : Programs}
    {perform : programs.Process → Bytes → Performance} {held : List Place}
    {joined : List (programs.Process × Ends)} {input : Bytes} {s fed : State} {pieces : List Piece}
    {w : Wiring} (h : programs.SideBySide perform held joined input s.files pieces)
    (hends : Ends.LeadTo w (joined.map (·.2)))
    (hw : ∀ o, w.outlet o = .session o ∨ ∃ handle, w.outlet o = .file handle)
    (hapart : w.Apart (fun _ h => h) s.files)
    (hheld : ∀ o handle, w.outlet o = .file handle → handle.place ∈ held)
    (hfed : ∀ o, fed.output o = s.output o) :
    let effect := programs.run joined input s.files
    s.Arrived (w.deliver { fed with files := effect.files } [] effect.output).2 w.sink w.errors
      (Piece.bytesTo (joined.map (·.2)) .stdout w.sink.endpoint pieces)
      (Piece.bytesTo (joined.map (·.2)) .stderr w.errors.endpoint pieces) := by
  intro effect
  -- only what leads to an output of the session comes out of a pipe
  have hdrained (piece : Piece) (hend : piece.end? (joined.map (·.2)) = some .drained) :
      w.outlet piece.output = .session piece.output := by
    obtain ⟨e, he, hout⟩ := Option.map_eq_some_iff.1 hend
    rcases hends e (List.mem_of_getElem? he) piece.output with hpipe | hsame
    · cases hpipe.symm.trans hout
    · refine (hw piece.output).resolve_right ?_
      rintro ⟨handle, hfile⟩
      rw [hfile] at hsame
      cases hsame.symm.trans hout
  have hsession : ∀ piece ∈ effect.output, w.outlet piece.output = .session piece.output := by
    intro piece hpiece
    rw [h.emptied] at hpiece
    exact hdrained piece (by simpa using (List.mem_filter.1 hpiece).2)
  obtain ⟨hfiles, houtput⟩ :=
    Wiring.deliver_session hsession { fed with files := effect.files }
  have hpassed (o : Output) :
      (w.deliver { fed with files := effect.files } [] effect.output).2.output o =
        s.output o ++ Piece.bytesTo (joined.map (·.2)) o .drained pieces := by
    rw [houtput, Piece.bytesTo, ← h.emptied, ← hfed o]
    cases o <;> rfl
  have hgained (o : Output) :
      s.Gained (w.deliver { fed with files := effect.files } [] effect.output).2
        (Piece.bytesTo (joined.map (·.2)) o (w.outlet o).endpoint pieces) (w.outlet o) := by
    rcases hw o with hsession | ⟨handle, hfile⟩
    · rw [hsession]
      exact hpassed o
    · rw [hfile, State.Gained, hfiles,
        FileSystem.bytesAt?_congr (h.stored handle.place (hheld o handle hfile))]
      exact hapart.bytesAt?_store hends pieces hfile
  refine ⟨hgained .stdout, hgained .stderr, fun o hsink herrors => ?_⟩
  have hother : w.outlet o ≠ .session o := by
    cases o
    · exact hsink
    · exact herrors
  have hnone : Piece.bytesTo (joined.map (·.2)) o .drained pieces = [] := by
    refine Piece.bytesTo_eq_nil fun piece _ ho hend => hother ?_
    rw [← ho]
    exact hdrained piece hend
  rw [hpassed o, hnone, List.append_nil]

/-! ### The ends by number -/

/-- These are the ends of the programs that were started first of a pipeline of so many. -/
structure Ends.Row (sink errors : Outlet) (total : Nat) (ends : List Ends) : Prop where
  length_le : ends.length ≤ total
  ends_eq : ∀ i e, ends[i]? = some e → e = Ends.at sink errors (i = 0) (i + 1 = total)

namespace Ends.Row

variable {sink errors : Outlet} {total : Nat} {ends : List Ends} {pieces : List Piece}

theorem leadTo (h : Row sink errors total ends) : LeadTo ⟨.session, sink, errors⟩ ends := by
  intro e he o
  obtain ⟨i, hi⟩ := List.getElem?_of_mem he
  rw [h.ends_eq i e hi]
  cases o with
  | stdout =>
    by_cases hlast : i + 1 = total
    · exact .inr (by simp [Ends.at, Ends.outlet, Wiring.outlet, hlast])
    · exact .inl (by simp [Ends.at, Ends.outlet, hlast])
  | stderr => exact .inr rfl

theorem inLine (h : Row sink errors total ends) : InLine ends where
  input i e he := by
    rw [h.ends_eq i e he]
    by_cases hi : i = 0 <;> simp [Ends.at, hi]
  output i e he hnext := by
    have hlast : i + 1 ≠ total := by
      have hlength := h.length_le
      omega
    rw [h.ends_eq i e he]
    simp [Ends.at, hlast]
  errors e he := by
    obtain ⟨i, hi⟩ := List.getElem?_of_mem he
    rw [h.ends_eq i e hi]
    exact errors.endpoint_ne_pipe

/-- If all have been started, the output of the last is that of the pipeline. -/
theorem chained (h : Row sink errors total ends) (hall : ends.length = total) : Chained ends where
  toInLine := h.inLine
  last i e he hpipe := by
    have hi := (List.getElem?_eq_some_iff.1 he).1
    by_contra hlast
    have htotal : i + 1 = total := by omega
    rw [h.ends_eq i e he] at hpipe
    simp [Ends.at, htotal, sink.endpoint_ne_pipe] at hpipe

theorem end?_eq (h : Row sink errors total ends) {piece : Piece}
    (hstage : piece.stage < ends.length) :
    piece.end? ends =
      some ((Ends.at sink errors (piece.stage = 0) (piece.stage + 1 = total)).outlet
        piece.output) := by
  have he := List.getElem?_eq_getElem hstage
  rw [Piece.end?, outlet?, he, Option.map_some, ← h.ends_eq _ _ he]

theorem bytesTo_errors (h : Row sink errors total ends)
    (hstages : ∀ piece ∈ pieces, piece.stage < ends.length) :
    Piece.bytesTo ends .stderr errors.endpoint pieces = Piece.bytes .stderr pieces := by
  refine Piece.bytesTo_eq_bytes fun piece hpiece ho => ?_
  rw [h.end?_eq (hstages piece hpiece), ho]
  rfl

theorem bytesTo_sink (h : Row sink errors total ends)
    (hstages : ∀ piece ∈ pieces, piece.stage < ends.length) :
    Piece.bytesTo ends .stdout sink.endpoint pieces =
      if ends.length = total then Piece.bytesOf (total - 1) .stdout pieces else [] := by
  have hend (piece : Piece) (hpiece : piece ∈ pieces) (ho : piece.output = .stdout) :
      piece.end? ends = some sink.endpoint ↔ piece.stage + 1 = total := by
    rw [h.end?_eq (hstages piece hpiece), ho, Option.some.injEq]
    by_cases hlast : piece.stage + 1 = total
    · simp [Ends.at, Ends.outlet, hlast]
    · simp [Ends.at, Ends.outlet, hlast, sink.endpoint_ne_pipe.symm]
  split
  · refine Piece.bytesTo_eq_bytesOf fun piece hpiece ho => (hend piece hpiece ho).trans ?_
    have hstage := hstages piece hpiece
    omega
  · next hfew =>
    refine Piece.bytesTo_eq_nil fun piece hpiece ho => mt (hend piece hpiece ho).1 ?_
    have hstage := hstages piece hpiece
    have hlength := h.length_le
    omega

end Ends.Row

namespace Shell

variable {sh : Shell} {held : List Place} {commands : List (Command × Text)}
  {sink errors : Outlet} {s : State} {pieces : List Piece}
  {perform : sh.programs.Process → Bytes → Performance}

/-- What programs are joined to that are started one after another from number `stage` on, and the
pumps that are started for them. -/
theorem startAll_shape (sh : Shell) (s : State) (held : List Place) (sink errors : Outlet)
    (commands : List (Command × Text)) (stage : Nat) (pipe : Option Nat) :
    let started := sh.startAll s held sink errors stage pipe commands
    started.processes.length ≤ commands.length ∧
      (started.refused = none ↔ started.processes.length = commands.length) ∧
      (∀ i e, (started.processes.map (·.2))[i]? = some e →
        e = Ends.at sink errors (stage + i = 0) (i + 1 = commands.length)) ∧
      started.pumps = (started.processes.zipIdx stage).flatMap fun p => p.1.2.pumps p.2 := by
  induction commands generalizing stage pipe with
  | nil => simp [startAll]
  | cons first rest ih =>
    obtain ⟨c, executable⟩ := first
    rw [startAll]
    cases hl : sh.programs.launch (invocation s held c executable) s.files with
    | error refusal => simp
    | ok process =>
      obtain ⟨hle, hrefused, hends, hpumps⟩ :=
        ih (stage + 1) (if rest.isEmpty then none else some stage)
      dsimp only
      refine ⟨Nat.succ_le_succ hle, hrefused.trans Nat.succ_inj.symm, fun i e he => ?_, ?_⟩
      · cases i with
        | zero =>
          obtain rfl := Option.some.inj he
          cases rest <;> simp
        | succ i =>
          have hnumber : stage + 1 + i = stage + (i + 1) := by omega
          rw [hends i e he, hnumber]
          simp
      · rw [hpumps, List.zipIdx_cons, List.flatMap_cons]

theorem row_startAll (sh : Shell) (s : State) (held : List Place) (sink errors : Outlet)
    (commands : List (Command × Text)) :
    Ends.Row sink errors commands.length
      ((sh.startAll s held sink errors 0 none commands).processes.map (·.2)) := by
  obtain ⟨hle, -, hends, -⟩ := sh.startAll_shape s held sink errors commands 0 none
  refine ⟨by simpa using hle, fun i e he => ?_⟩
  have hi := hends i e he
  rwa [Nat.zero_add] at hi

theorem drain_mem_pumps {piece : Piece} (hend : piece.end?
      ((sh.startAll s held sink errors 0 none commands).processes.map (·.2)) = some .drained) :
    .drain piece.stage piece.output ∈ (sh.startAll s held sink errors 0 none commands).pumps := by
  obtain ⟨-, -, -, hpumps⟩ := sh.startAll_shape s held sink errors commands 0 none
  obtain ⟨e, he, hout⟩ := Option.map_eq_some_iff.1 hend
  rw [List.getElem?_map] at he
  obtain ⟨process, hprocess, rfl⟩ := Option.map_eq_some_iff.1 he
  rw [hpumps]
  refine List.mem_flatMap.2 ⟨(process, piece.stage), ?_, ?_⟩
  · simpa [List.mem_zipIdx_iff_getElem?] using hprocess
  · cases ho : piece.output <;> rw [ho] at hout <;> simp_all [Ends.pumps, Ends.outlet]

theorem feed_mem_pumps (hne : (sh.startAll s held sink errors 0 none commands).processes ≠ []) :
    .feed ∈ (sh.startAll s held sink errors 0 none commands).pumps := by
  obtain ⟨-, -, hends, hpumps⟩ := sh.startAll_shape s held sink errors commands 0 none
  obtain ⟨⟨process, e⟩, rest, hprocesses⟩ := List.exists_cons_of_ne_nil hne
  have he : e = Ends.at sink errors (0 + 0 = 0) (0 + 1 = commands.length) :=
    hends 0 e (by rw [hprocesses]; rfl)
  rw [hpumps, hprocesses]
  refine List.mem_flatMap.2 ⟨((process, e), 0), by simp, ?_⟩
  simp [Ends.pumps, he, Ends.at]

theorem passed_eq {output : List Piece} (hdrained : ∀ piece ∈ output, piece.end?
      ((sh.startAll s held sink errors 0 none commands).processes.map (·.2)) = some .drained) :
    (output.filter fun piece => (sh.startAll s held sink errors 0 none commands).pumps.contains
      (.drain piece.stage piece.output)) = output := by
  refine List.filter_eq_self.2 fun piece hpiece => ?_
  rw [List.contains_iff_mem]
  exact drain_mem_pumps (hdrained piece hpiece)

/-! ### Running together -/

/-- Outlets that do not get in each other's way lead programs to the ends of different files. -/
theorem apart_of_sound {feed : Feed} (hsound : Scene.Sound ⟨feed, some sink, errors, s⟩) :
    Wiring.Apart ⟨.session, sink, errors⟩ (fun _ h => h) s.files := by
  refine ⟨fun o h _ => rfl, fun o h ho => ?_, fun o o' h h' hne ho ho' hplace => ?_⟩
  · cases o with
    | stdout => exact (hsound.sink sink rfl).atEnd h ho
    | stderr => exact hsound.errors.atEnd h ho
  · have happart {h h' : Handle} (hs : sink = .file h) (he : errors = .file h') :
        h.place ≠ h'.place := by
      intro hplace
      refine hsound.apart (.file h.place) ?_ ?_
      · rw [Scene.sinkTarget?, hs]
        rfl
      · rw [he, hplace]
        rfl
    cases o <;> cases o'
    · exact hne rfl
    · exact happart ho ho' hplace
    · exact happart ho' ho hplace.symm
    · exact hne rfl

/-- The outlets of a pipeline: outputs of the session or open files that are held. -/
structure Leads (held : List Place) (sink errors : Outlet) : Prop where
  held_mem : ∀ handle, sink = .file handle ∨ errors = .file handle → handle.place ∈ held
  sink_eq : sink = .session .stdout ∨ ∃ handle, sink = .file handle
  errors_eq : errors = .session .stderr ∨ ∃ handle, errors = .file handle

theorem place_mem_heldPlaces (handle : Handle) (h : sink = .file handle ∨ errors = .file handle) :
    handle.place ∈ heldPlaces sink errors := by
  rcases h with rfl | rfl <;> simp [heldPlaces, Outlet.handle?]

theorem Leads.outlet (h : Leads held sink errors) (o : Output) :
    Wiring.outlet ⟨.session, sink, errors⟩ o = .session o ∨
      ∃ handle, Wiring.outlet ⟨.session, sink, errors⟩ o = .file handle := by
  cases o with
  | stdout => exact h.sink_eq
  | stderr => exact h.errors_eq

theorem Leads.mem_of_outlet (h : Leads held sink errors) {o : Output} {handle : Handle}
    (ho : Wiring.outlet ⟨.session, sink, errors⟩ o = .file handle) : handle.place ∈ held := by
  cases o with
  | stdout => exact h.held_mem handle (.inl ho)
  | stderr => exact h.held_mem handle (.inr ho)

/-- What programs that were started write arrives where the pipeline leads: the error output of all,
and the output of the last if all have been started. -/
theorem arrived_startAll {fed : State} {input : Bytes} (hleads : Leads held sink errors)
    (hsound : Scene.Sound ⟨.session, some sink, errors, s⟩)
    (hside : sh.programs.SideBySide perform held
      (sh.startAll s held sink errors 0 none commands).processes input s.files pieces)
    (hfed : ∀ o, fed.output o = s.output o) :
    let joined := (sh.startAll s held sink errors 0 none commands).processes
    let effect := sh.programs.run joined input s.files
    s.Arrived (Wiring.deliver ⟨.session, sink, errors⟩ { fed with files := effect.files } []
        effect.output).2 sink errors
      (if joined.length = commands.length then Piece.bytesOf (commands.length - 1) .stdout pieces
        else [])
      (Piece.bytes .stderr pieces) := by
  intro joined effect
  have hrow := sh.row_startAll s held sink errors commands
  have hstages : ∀ piece ∈ pieces, piece.stage < (joined.map (·.2)).length := by
    simpa using hside.stages
  have harrived := hside.arrived hrow.leadTo hleads.outlet (apart_of_sound hsound)
    (fun o handle => hleads.mem_of_outlet) hfed
  rw [hrow.bytesTo_sink hstages, hrow.bytesTo_errors hstages, List.length_map] at harrived
  exact harrived

theorem drained_of_sideBySide {joined : List (sh.programs.Process × Ends)} {input : Bytes}
    (hside : sh.programs.SideBySide perform held joined input s.files pieces) :
    ∀ piece ∈ (sh.programs.run joined input s.files).output,
      piece.end? (joined.map (·.2)) = some .drained := by
  intro piece hpiece
  rw [hside.emptied] at hpiece
  simpa using (List.mem_filter.1 hpiece).2

/-- The started programs get the input that is fed to them, all that comes out of their pipes is
passed on, and the status is that of the last one, or one was refused. -/
theorem runTogether_ends {input : Bytes} {fed : State}
    (hfed : (if (sh.startAll s held sink errors 0 none commands).pumps.contains .feed
      then s.takeInput else ([], s)) = (input, fed))
    (hside : sh.programs.SideBySide perform held
      (sh.startAll s held sink errors 0 none commands).processes input s.files pieces) :
    let started := sh.startAll s held sink errors 0 none commands
    let effect := sh.programs.run started.processes input s.files
    let d := (Wiring.deliver ⟨.session, sink, errors⟩ { fed with files := effect.files } []
      effect.output).2
    let run := (sh.runTogether held commands sink errors s).1
    run.started = (commands.take started.processes.length).map (·.1) ∧
      (run.ended, run.state) =
        match started.refused with
        | none =>
          (if commands.isEmpty then .raised .noStage
            else .returned (effect.status (started.processes.length - 1)), d)
        | some (name, .system _) => d.conclude (notFoundMessage name) notFoundStatus
        | some (_, .unfit failure) => (.raised failure, d) := by
  have hfiles : fed.files = s.files := by
    split at hfed <;> cases hfed <;> rfl
  have hpassed := passed_eq (drained_of_sideBySide hside)
  intro started effect d run
  refine ⟨rfl, ?_⟩
  simp only [run, runTogether, hfed, hfiles, hpassed]
  rfl

/-- Programs together that are all started: the last gives the status and the output, and each its
error output, among that of the others. -/
theorem runTogether_performs {last : Performance} (hleads : Leads held sink errors)
    (hsound : Scene.Sound ⟨.session, some sink, errors, s⟩)
    (hstarted : (sh.startAll s held sink errors 0 none commands).refused = none)
    (hside : sh.programs.SideBySide perform held
      (sh.startAll s held sink errors 0 none commands).processes s.session.stdin s.files pieces)
    (hlast : (performances perform
      ((sh.startAll s held sink errors 0 none commands).processes.map (·.1))
      s.session.stdin).getLast? = some last) :
    let run := (sh.runTogether held commands sink errors s).1
    run.ended = .returned last.status ∧ run.started = commands.map (·.1) ∧
      s.Arrived run.state sink errors last.stdout (Piece.bytes .stderr pieces) := by
  intro run
  obtain ⟨-, hall, -⟩ := sh.startAll_shape s held sink errors commands 0 none
  have hlength := hall.1 hstarted
  rw [List.getLast?_eq_getElem?, length_performances, List.length_map, hlength] at hlast
  have hfew : (sh.startAll s held sink errors 0 none commands).processes ≠ [] := by
    intro hnone
    rw [hnone] at hlast
    cases hlast
  have hpositive : 0 < commands.length := hlength ▸ List.length_pos_iff.2 hfew
  have hcommands : commands.isEmpty = false := by simpa using List.length_pos_iff.1 hpositive
  have hchained := (sh.row_startAll s held sink errors commands).chained (by simpa using hlength)
  obtain ⟨hwritten, -, hstatus⟩ := hside.of_chained hchained hlast
  have hstdout : Piece.bytesOf (commands.length - 1) .stdout pieces = last.stdout :=
    hwritten (by omega)
  have hfed : (if (sh.startAll s held sink errors 0 none commands).pumps.contains .feed
      then s.takeInput else ([], s)) = s.takeInput :=
    if_pos (List.contains_iff_mem.2 (feed_mem_pumps hfew))
  obtain ⟨hran, hends⟩ := runTogether_ends hfed hside
  rw [hstarted, hlength, hcommands, hstatus] at hends
  obtain ⟨hended, hstate⟩ := Prod.mk.inj hends
  have htaken (o : Output) : s.takeInput.2.output o = s.output o := by cases o <;> rfl
  have harrived := arrived_startAll hleads hsound hside htaken
  dsimp only at harrived
  rw [if_pos hlength, hstdout] at harrived
  rw [hlength, List.take_length] at hran
  refine ⟨hended, hran, ?_⟩
  have hdelivered : run.state = _ := hstate
  rw [hdelivered]
  exact harrived

/-- Programs together up to one that is not started: what those before it have written to their
error outputs has arrived, and nothing at the sink. -/
theorem runTogether_refused {name : Text} {refusal : Refusal} (hleads : Leads held sink errors)
    (hsound : Scene.Sound ⟨.session, some sink, errors, s⟩) (hstdin : s.session.stdin = [])
    (hrefused : (sh.startAll s held sink errors 0 none commands).refused = some (name, refusal))
    (hside : sh.programs.SideBySide perform held
      (sh.startAll s held sink errors 0 none commands).processes [] s.files pieces) :
    let run := (sh.runTogether held commands sink errors s).1
    ∃ d, (run.ended, run.state) =
        (match refusal with
        | .system _ => d.conclude (notFoundMessage name) notFoundStatus
        | .unfit failure => (.raised failure, d)) ∧
      run.started = (commands.take
        (sh.startAll s held sink errors 0 none commands).processes.length).map (·.1) ∧
      s.Arrived d sink errors [] (Piece.bytes .stderr pieces) := by
  intro run
  obtain ⟨-, hall, -⟩ := sh.startAll_shape s held sink errors commands 0 none
  have hfew : (sh.startAll s held sink errors 0 none commands).processes.length ≠
      commands.length := by
    rw [Ne, ← hall, hrefused]
    nofun
  have hempty : s.takeInput = ([], s) := by
    unfold State.takeInput
    rw [hstdin, ← hstdin]
  have hfed : (if (sh.startAll s held sink errors 0 none commands).pumps.contains .feed
      then s.takeInput else ([], s)) = ([], s) := by
    rw [hempty, ite_self]
  obtain ⟨hran, hends⟩ := runTogether_ends hfed hside
  have hsame (o : Output) : s.output o = s.output o := rfl
  have harrived := arrived_startAll hleads hsound hside hsame
  dsimp only at harrived
  rw [if_neg hfew] at harrived
  rw [hrefused] at hends
  refine ⟨_, ?_, hran, harrived⟩
  cases refusal with
  | system cause => exact hends
  | unfit failure => exact hends

end Shell
end PipelineShell
