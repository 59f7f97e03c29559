import PipelineShell.Execution.Relay
import PipelineShell.Proofs.Execution.Stage
import PipelineShell.Proofs.Stream.Conduit

/-!
# No loss and no deadlock in a relay

In every order of turns the bytes of the three pipes are conserved, and until `_run_external_stage`
returns some party can take a turn.
-/

namespace PipelineShell

namespace Relay

variable {child : Child} {source : Channel} {feeds : Bool} {data : Bytes} {r t : Relay child}
  {o : Output} {f : Outflow} {move : RelayMove} {amount : Nat} {status : Int}

/-- All streams are whole, and a program that has exited has no end open. -/
structure Sound (data : Bytes) (r : Relay child) : Prop where
  intake : r.intake.Carries data
  outflow : ∀ o, (r.outflow o).Carries (r.arrived o)
  exited : ∀ status, r.activity = .exited status →
    r.intake.pipe.readable = false ∧ ∀ o, (r.outflow o).pipe.writable = false

theorem sound_start (child : Child) (hclosed : source.closed = true) (feeds : Bool)
    (input : Capacity) (outputs : Output → Capacity) :
    (start child source feeds input outputs).Sound (if feeds then source.content else []) where
  intake := by
    cases feeds
    · exact ⟨hclosed, List.nil_prefix, fun _ => rfl, by simp [start]⟩
    · exact ⟨hclosed, List.nil_prefix, fun _ => rfl, by simp [start]⟩
  outflow o := ⟨rfl, fun hover => by simp [start, Phase.Over] at hover⟩
  exited status h := by cases h

theorem carries_withOutflow (h : ∀ p, (r.outflow p).Carries (r.arrived p))
    (hf : f.Carries (r.arrived o)) (p : Output) :
    ((r.withOutflow o f).outflow p).Carries (r.arrived p) := by
  unfold withOutflow
  dsimp only
  split
  · next hp => rwa [hp]
  · exact h p

theorem bytes_pieces (pieces : List Bytes) (o p : Output) :
    ((pieces.map (o, ·)).filter (·.1 = p)).flatMap (·.2) =
      if p = o then pieces.flatten else [] := by
  induction pieces with
  | nil => simp
  | cons piece rest ih =>
    by_cases hp : p = o
    · subst hp
      simp [ih]
    · have hne : o ≠ p := Ne.symm hp
      simp [hp, hne]

theorem arrived_append {pieces : List Bytes} (h : t.delivered = r.delivered ++ pieces.map (o, ·))
    (p : Output) : t.arrived p = r.arrived p ++ if p = o then pieces.flatten else [] := by
  simp only [arrived, h, List.filter_append, List.flatMap_append, bytes_pieces]

/-! ### One turn -/

theorem Sound.proceed (hr : r.Sound data) (h : r.proceed? amount = some t) : t.Sound data := by
  unfold proceed? at h
  split at h
  · cases h
  · split at h
    · obtain ⟨⟨answer, intake⟩, hread, rfl⟩ := Option.map_eq_some_iff.1 h
      exact ⟨hr.intake.read hread, hr.outflow, nofun⟩
    · obtain ⟨⟨answer, f⟩, hwrite, rfl⟩ := Option.map_eq_some_iff.1 h
      have hf := (hr.outflow _).write hwrite
      exact ⟨hr.intake, carries_withOutflow hr.outflow hf, nofun⟩
    · cases h
      exact ⟨hr.intake.shut, hr.outflow, nofun⟩
    · next o next _ =>
      cases h
      exact ⟨hr.intake, carries_withOutflow hr.outflow (hr.outflow o).shut, nofun⟩
    · cases h
      exact ⟨hr.intake.shut, fun o => (hr.outflow o).shut, fun _ _ => ⟨rfl, fun _ => rfl⟩⟩

theorem Sound.feed (hr : r.Sound data) (h : r.step? (.feed amount) = some t) :
    t.Sound data ∧ t.activity = r.activity ∧ t.intake.work < r.intake.work ∧
      t.outflow = r.outflow := by
  obtain ⟨intake, hpump, rfl⟩ := Option.map_eq_some_iff.1 h
  obtain ⟨hintake, hreadable, hlower⟩ := hr.intake.pump hpump
  refine ⟨⟨hintake, hr.outflow, fun status hexited => ?_⟩, rfl, hlower, rfl⟩
  obtain ⟨hread, hwrite⟩ := hr.exited status hexited
  exact ⟨hreadable.trans hread, hwrite⟩

theorem Sound.drain (hr : r.Sound data) (h : r.step? (.drain o amount) = some t) :
    t.Sound data ∧ t.activity = r.activity ∧ t.intake = r.intake ∧
      (t.outflow o).work < (r.outflow o).work ∧ ∀ p, p ≠ o → t.outflow p = r.outflow p := by
  obtain ⟨⟨pieces, f⟩, hpump, ht⟩ := Option.map_eq_some_iff.1 h
  obtain ⟨hf, hwritable, hlower⟩ := (hr.outflow o).pump hpump
  have hactivity : t.activity = r.activity := ht ▸ rfl
  have hintake : t.intake = r.intake := ht ▸ rfl
  have houtflow (p : Output) : t.outflow p = if p = o then f else r.outflow p := ht ▸ rfl
  have hdelivered : t.delivered = r.delivered ++ pieces.map (o, ·) := ht ▸ rfl
  have harrived := arrived_append hdelivered
  have hsame : t.outflow o = f := by rw [houtflow, if_pos rfl]
  have hother (p : Output) (hp : p ≠ o) : t.outflow p = r.outflow p := by
    rw [houtflow, if_neg hp]
  refine ⟨⟨hintake ▸ hr.intake, fun p => ?_, fun status hexited => ?_⟩, hactivity, hintake,
    hsame ▸ hlower, hother⟩
  · by_cases hp : p = o
    · subst hp
      rw [harrived, hsame, if_pos rfl]
      exact hf
    · rw [harrived, hother p hp, if_neg hp, List.append_nil]
      exact hr.outflow p
  · obtain ⟨hread, hwrite⟩ := hr.exited status (hactivity ▸ hexited)
    refine ⟨hintake ▸ hread, fun p => ?_⟩
    by_cases hp : p = o
    · subst hp
      rw [hsame, hwritable]
      exact hwrite p
    · rw [hother p hp]
      exact hwrite p

theorem Sound.step (hr : r.Sound data) (h : r.step? move = some t) : t.Sound data := by
  cases move with
  | program amount => exact hr.proceed h
  | feed amount => exact (hr.feed h).1
  | drain o amount => exact (hr.drain h).1

theorem Sound.run {moves : List RelayMove} (hr : r.Sound data) (h : r.run? moves = some t) :
    t.Sound data := by
  induction moves generalizing r with
  | nil =>
    cases h
    exact hr
  | cons move rest ih =>
    obtain ⟨u, hstep, hrest⟩ := Option.bind_eq_some_iff.1 h
    exact ih (hr.step hstep) hrest

/-! ### The pumps come to an end -/

/-- How many turns the pumps may still take in all, as long as the program takes none. -/
def work (r : Relay child) : Nat :=
  r.intake.work + ((r.outflow .stdout).work + (r.outflow .stderr).work)

theorem Sound.lower (hr : r.Sound data) (hmove : move.isPump = true) (h : r.step? move = some t) :
    t.activity = r.activity ∧ t.work < r.work := by
  cases move with
  | program amount => cases hmove
  | feed amount =>
    obtain ⟨-, hactivity, hlower, houtflow⟩ := hr.feed h
    refine ⟨hactivity, ?_⟩
    simp only [work, houtflow]
    omega
  | drain o amount =>
    obtain ⟨-, hactivity, hintake, hlower, hother⟩ := hr.drain h
    refine ⟨hactivity, ?_⟩
    cases o with
    | stdout =>
      have hstderr := hother .stderr (by decide)
      simp only [work, hintake, hstderr]
      omega
    | stderr =>
      have hstdout := hother .stdout (by decide)
      simp only [work, hintake, hstdout]
      omega

theorem Sound.length_le_work {moves : List RelayMove} (hr : r.Sound data)
    (hmoves : ∀ move ∈ moves, move.isPump = true) (h : r.run? moves = some t) :
    moves.length ≤ r.work := by
  induction moves generalizing r with
  | nil => exact Nat.zero_le r.work
  | cons move rest ih =>
    obtain ⟨u, hstep, hrest⟩ := Option.bind_eq_some_iff.1 h
    have hlower := (hr.lower (hmoves move List.mem_cons_self) hstep).2
    have hbound := ih (hr.step hstep) (fun m hm => hmoves m (List.mem_cons_of_mem move hm)) hrest
    simp only [List.length_cons]
    omega

/-! ### Somebody can take a turn -/

theorem waits_of_proceed?_eq_none {memory : child.Memory} (hrunning : r.activity = .running memory)
    (h : r.proceed? amount = none) :
    (∃ size, r.intake.read? size amount = none) ∨
      ∃ o data, (r.outflow o).write? data amount = none := by
  unfold proceed? at h
  rw [hrunning] at h
  dsimp only at h
  split at h
  · next size next _ => exact .inl ⟨size, Option.map_eq_none_iff.1 h⟩
  · next o data next _ => exact .inr ⟨o, data, Option.map_eq_none_iff.1 h⟩
  · cases h
  · cases h
  · cases h

theorem result?_eq_some_iff :
    r.result? = some status ↔
      r.activity = .exited status ∧ r.intake.phase = .finished ∧
        ∀ o, (r.outflow o).phase = .finished := by
  have hboth : (∀ o ∈ [Output.stdout, .stderr], (r.outflow o).phase = .finished) ↔
      ∀ o, (r.outflow o).phase = .finished := by
    refine ⟨fun h o => h o ?_, fun h o _ => h o⟩
    cases o <;> simp
  unfold result?
  cases hactivity : r.activity with
  | running memory => simp
  | exited found =>
    dsimp only
    split
    · next hfinished =>
      have hall := hboth.1 hfinished.2
      simp [hfinished.1, hall]
    · next hfinished =>
      refine iff_of_false (by simp) ?_
      rintro ⟨-, hphase, hall⟩
      exact hfinished ⟨hphase, hboth.2 hall⟩

/-- As long as there is no result, somebody can take a turn, and once the program has exited it is
a pump. -/
theorem Sound.progress (hr : r.Sound data) (h : r.result? = none) :
    ∃ move, (r.step? move).isSome = true := by
  cases hactivity : r.activity with
  | running memory =>
    cases hproceed : r.proceed? 1 with
    | some t => exact ⟨.program 1, by simp [step?, hproceed]⟩
    | none =>
      rcases waits_of_proceed?_eq_none hactivity hproceed with ⟨size, hread⟩ | ⟨o, data, hwrite⟩
      · have hpump := hr.intake.pump_of_waiting hread 1
        exact ⟨.feed 1, by simpa [step?] using hpump⟩
      · have hpump := (hr.outflow o).pump_of_waiting hwrite 1
        exact ⟨.drain o 1, by simpa [step?] using hpump⟩
  | exited status =>
    -- the ends of the program are closed, so a pump that waits has finished
    obtain ⟨hread, hwrite⟩ := hr.exited status hactivity
    refine Classical.byContradiction fun hstuck => ?_
    have hwaits (move : RelayMove) : r.step? move = none := by
      cases hstep : r.step? move with
      | none => rfl
      | some t => exact absurd ⟨move, by simp [hstep]⟩ hstuck
    have hintake : r.intake.phase = .finished := by
      have hfeed := hwaits (.feed 1)
      rcases hr.intake.of_pump?_eq_none (Option.map_eq_none_iff.1 hfeed) with hphase | ⟨hopen, -⟩
      · exact hphase
      · rw [hread] at hopen
        cases hopen
    have houtflow (o : Output) : (r.outflow o).phase = .finished := by
      have hdrain := hwaits (.drain o 1)
      rcases Outflow.of_pump?_eq_none (Option.map_eq_none_iff.1 hdrain) with hphase | ⟨-, hopen⟩
      · exact hphase
      · rw [hwrite o] at hopen
        cases hopen
    rw [result?_eq_some_iff.2 ⟨hactivity, hintake, houtflow⟩] at h
    cases h

theorem isPump_of_exited (hexited : r.activity = .exited status)
    (h : (r.step? move).isSome = true) : move.isPump = true := by
  cases move with
  | program amount => simp [step?, proceed?, hexited] at h
  | feed amount => rfl
  | drain o amount => rfl

theorem Sound.returns (hr : r.Sound data) (hexited : r.activity = .exited status) :
    ∃ moves t, r.run? moves = some t ∧ t.result? = some status := by
  -- every turn is one of a pump now, and lowers what is left for the pumps to do
  induction hwork : r.work using Nat.strongRecOn generalizing r with
  | ind n ih =>
    cases hresult : r.result? with
    | some found =>
      obtain ⟨hfound, -⟩ := result?_eq_some_iff.1 hresult
      rw [hexited] at hfound
      cases hfound
      exact ⟨[], r, rfl, hresult⟩
    | none =>
      obtain ⟨move, hmove⟩ := hr.progress hresult
      obtain ⟨u, hstep⟩ := Option.isSome_iff_exists.1 hmove
      obtain ⟨hactivity, hlower⟩ := hr.lower (isPump_of_exited hexited hmove) hstep
      obtain ⟨moves, t, hrun, hreturns⟩ :=
        ih u.work (by omega) (hr.step hstep) (hactivity.trans hexited) rfl
      refine ⟨move :: moves, t, ?_, hreturns⟩
      rw [run?, hstep]
      exact hrun

/-- What the sinks have got, as the pieces of a program that runs alone. -/
def pieces (r : Relay child) : List Piece := r.delivered.map fun (o, data) => ⟨0, o, data⟩

theorem bytes_pieces_eq (r : Relay child) (o : Output) : Piece.bytes o r.pieces = r.arrived o := by
  simp only [Piece.bytes, pieces, arrived, List.filter_map, List.flatMap_map]
  rfl

/-- Whatever order the turns were taken in, a stage that runs the program ends with the status of
the program, and its outlets get what the program has written. -/
theorem Sound.runProgram {sh : Shell} {held : List Place} {c : Command} {executable : Text}
    {process : sh.programs.Process} {w : Wiring} {s : State} {files : FileSystem}
    (hr : r.Sound data) (h : r.result? = some status)
    (hlaunch : sh.programs.launch (Shell.invocation s held c executable) s.files = .ok process)
    (heffect : sh.programs.run [(process, {})] (w.source.before.getD []) s.files =
      ⟨r.pieces, [status], files⟩)
    (hsink : w.sink.isOpen = true) (herrors : w.errors.isOpen = true) :
    ∃ (w' : Wiring) (s' : State) (ds : List Deed),
      sh.runProgram held c executable w s = (.finished status, w', s') ∧
      Outputs (fun o => (r.outflow o).written) ds ∧
      Scene.Steps sh.base sh.names ds ⟨.bytes [], some w.sink, w.errors, { s with files }⟩
        ⟨.bytes [], some w'.sink, w'.errors, s'⟩ := by
  obtain ⟨-, -, hfinished⟩ := result?_eq_some_iff.1 h
  have hbytes (o : Output) : Piece.bytes o r.pieces = (r.outflow o).written := by
    rw [bytes_pieces_eq, (hr.outflow o).arrived_of_finished (hfinished o)]
  obtain ⟨w', s', ds, hrun, houtputs, hsteps, -⟩ := sh.runProgram_outputs hlaunch hsink herrors
  rw [heffect] at hrun houtputs hsteps
  refine ⟨w', s', ds, hrun, ⟨houtputs.only, ?_, ?_⟩, hsteps⟩
  · exact houtputs.written.trans (hbytes .stdout)
  · exact houtputs.complained.trans (hbytes .stderr)

/-- In every order of turns a sink has got a front of what was written, all of it once its pump has
finished, and the program has read a front of its stream. Until there is a result some party can
take a turn, pumps alone take boundedly many, and once the program has exited its status is
returned. -/
theorem lossless_and_live (child : Child) {r : Relay child} (hclosed : source.closed = true)
    (feeds : Bool) (input : Capacity) (outputs : Output → Capacity) {moves : List RelayMove}
    (h : (start child source feeds input outputs).run? moves = some r) :
    (∀ o, r.arrived o <+: (r.outflow o).written ∧
      ((r.outflow o).phase = .finished → r.arrived o = (r.outflow o).written)) ∧
      r.intake.taken <+: (if feeds then source.content else []) ∧
      (r.result? = none → ∃ move, (r.step? move).isSome = true) ∧
      (∀ pumps t, (∀ move ∈ pumps, move.isPump = true) → r.run? pumps = some t →
        pumps.length ≤ r.work) ∧
      ∀ status, r.activity = .exited status →
        ∃ rest t, r.run? rest = some t ∧ t.result? = some status := by
  have hr : r.Sound (if feeds then source.content else []) :=
    (sound_start child hclosed feeds input outputs).run h
  refine ⟨fun o => ?_, hr.intake.taken, hr.progress, fun pumps t => hr.length_le_work, ?_⟩
  · exact ⟨(hr.outflow o).arrived_front, (hr.outflow o).arrived_of_finished⟩
  · exact fun status => hr.returns

/-- Copies its input in parts of two bytes at most, then exits. -/
def copier : Child where
  Memory := Option Bytes
  start := some []
  wish
    | some [] => .read 2 fun answer => if answer.getD [] = [] then none else answer
    | some rest => .write .stdout rest fun written => written.map rest.drop
    | none => .exit 0

/-- Two bytes stand in the pipe to the program and one in the pipe from it. Both are full, so the
program waits, and so does the pump that feeds it. -/
theorem lossless_and_live_full :
    let first := start copier (Channel.ofBytes [1, 2, 3, 4, 5]) true ⟨2, by decide⟩
      fun _ => ⟨1, by decide⟩
    let moves := [.feed 9, .feed 9, .program 9, .program 9, .feed 9]
    ∃ t, first.run? moves = some t ∧ t.step? (.program 9) = none ∧ t.step? (.feed 9) = none ∧
      (∃ move, (t.step? move).isSome = true) ∧ t.intake.taken <+: [1, 2, 3, 4, 5] := by
  intro first moves
  have hsome : (first.run? moves).isSome = true := by decide
  obtain ⟨t, ht⟩ := Option.isSome_iff_exists.1 hsome
  have hnone : (first.run? moves).bind result? = none := by decide
  have hprogram : ((first.run? moves).bind (·.step? (.program 9))).isNone = true := by decide
  have hfeed : ((first.run? moves).bind (·.step? (.feed 9))).isNone = true := by decide
  rw [ht, Option.bind_some] at hnone hprogram hfeed
  have hclosed : (Channel.ofBytes [1, 2, 3, 4, 5]).closed = true := rfl
  obtain ⟨-, htaken, hlive, -⟩ := lossless_and_live copier hclosed true ⟨2, by decide⟩
    (fun _ => ⟨1, by decide⟩) ht
  exact ⟨t, ht, Option.isNone_iff_eq_none.1 hprogram, Option.isNone_iff_eq_none.1 hfeed,
    hlive hnone, htaken⟩

end Relay
end PipelineShell
