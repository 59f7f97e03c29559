import PipelineShell.Proofs.Execution.Relay
import PipelineShell.Proofs.Stream.Pumping

/-!
# The pumps of a relay

`Pump.step?` is `_pump` call by call; `Intake.pump?` and `Outflow.pump?` are the same pump turn by
turn, beside the process at the other end of the pipe. In every run of a relay each pump follows a
run of `Pump.step?`.
-/

namespace PipelineShell

namespace Phase

/-- Where the pump stands that is in a phase, if what it holds is a whole chunk. -/
def point : Phase → Pump.Point
  | .reading => .reading
  | .holding chunk => .writing chunk
  | .closing => .closingSource none
  | .finished => .done none

theorem point_onRead (chunk : Bytes) :
    (onRead chunk).point = if chunk.isEmpty then .closingSource none else .writing chunk := by
  cases chunk <;> rfl

end Phase

namespace Pump

variable {ρ σ : Type} {pump : Pump ρ σ} {r r' : ρ} {s t : σ} {chunk : Bytes}
  {fault : Option SinkFault}

theorem step?_reading (h : pump.supply.read? chunkSize r = some (chunk, r')) (calls : List Call) :
    pump.step? ⟨.reading, r, s, calls⟩ =
      some ⟨(Phase.onRead chunk).point, r', s, calls ++ [.read chunk]⟩ := by
  simp only [step?, read?, h, Option.map_some, Phase.point_onRead]

theorem step?_writing (h : pump.drain.write chunk s = (fault, t)) (calls : List Call) :
    pump.step? ⟨.writing chunk, r, s, calls⟩ =
      some ⟨Point.flushing.after fault, r, t, calls ++ [.write chunk fault]⟩ := by
  simp only [step?, write, h]

end Pump

/-! ### The outputs -/

/-- A stream that gives some chunks one after another, and then makes its reader wait. -/
def Supply.replay : Supply (List Bytes) where
  read?
    | _, [] => none
    | _, chunk :: rest => some (chunk, rest)
  close := id

/-- A sink that keeps all chunks. -/
def Drain.collect : Drain (List Bytes) where
  write chunk got := (none, got ++ [chunk])
  flush got := (none, got)
  close got := (none, got)

namespace Outflow

variable {f g : Outflow} {amount : Nat} {pieces : List Bytes}

/-- The pump that empties a pipe, which it closes in the end, into a sink, which it leaves open. -/
def drainer : Pump (List Bytes) (List Bytes) := ⟨.replay, .collect, true, false⟩

/-- From one output to another, `drainer` reads some chunks, which it hands over or still holds. -/
def Drains (f : Outflow) (pieces : List Bytes) (g : Outflow) : Prop :=
  ∃ chunks : List Bytes, f.phase.held ++ chunks.flatten = pieces.flatten ++ g.phase.held ∧
    ∀ ahead got calls, ∃ calls',
      drainer.Reaches ⟨f.phase.point, chunks ++ ahead, got, calls⟩
        ⟨g.phase.point, ahead, got ++ pieces, calls'⟩

theorem Drains.of_phase (h : g.phase = f.phase) : f.Drains [] g :=
  ⟨[], by simp [h], fun ahead got calls => ⟨calls, by simpa [h] using .refl ..⟩⟩

theorem Drains.trans {k : Outflow} {more : List Bytes} (h : f.Drains pieces g)
    (h' : g.Drains more k) : f.Drains (pieces ++ more) k := by
  obtain ⟨chunks, hheld, hreach⟩ := h
  obtain ⟨chunks', hheld', hreach'⟩ := h'
  refine ⟨chunks ++ chunks', ?_, fun ahead got calls => ?_⟩
  · simp only [List.flatten_append, ← List.append_assoc, hheld]
    simp only [List.append_assoc, hheld']
  · obtain ⟨calls₁, hfirst⟩ := hreach (chunks' ++ ahead) got calls
    obtain ⟨calls₂, hsecond⟩ := hreach' ahead (got ++ pieces) calls₁
    rw [← List.append_assoc] at hfirst
    rw [List.append_assoc] at hsecond
    exact ⟨calls₂, hfirst.trans hsecond⟩

/-- A turn is made of calls of `drainer`: a read, a write with its flush, or the closing. -/
theorem drains_of_pump? (h : f.pump? amount = some (pieces, g)) : f.Drains pieces g := by
  rcases pump?_cases h with ⟨chunk, pipe, hphase, -, rfl, rfl⟩ | ⟨chunk, hphase, rfl, rfl⟩ |
    ⟨hphase, rfl, rfl⟩
  · refine ⟨[chunk], ?_, fun ahead got calls => ⟨calls ++ [.read chunk], ?_⟩⟩
    · rw [hphase, Phase.held_onRead]
      simp [Phase.held]
    · rw [hphase, List.append_nil]
      exact .cons (Pump.step?_reading rfl calls) (.refl ..)
  · refine ⟨[], by simp [hphase, Phase.held], fun ahead got calls => ?_⟩
    rw [hphase]
    exact ⟨_, .cons (Pump.step?_writing rfl calls) (.cons rfl (.refl ..))⟩
  · refine ⟨[], by simp [hphase, Phase.held], fun ahead got calls => ?_⟩
    rw [hphase, List.append_nil]
    exact ⟨_, .cons rfl (.cons rfl (.refl ..))⟩

theorem phase_write {data : Bytes} {answer : Option Nat}
    (h : f.write? data amount = some (answer, g)) : g.phase = f.phase := by
  unfold write? at h
  split at h
  · obtain ⟨⟨part, pipe⟩, -, hg⟩ := Option.map_eq_some_iff.1 h
    cases hg
    rfl
  · cases h
    rfl

end Outflow

/-! ### The input -/

/-- A channel as a stream of which one reader takes all. -/
def Channel.supply : Supply Channel where
  read? size c := c.readSome? (some size)
  close := Channel.close

/-- A sink whose reader goes away before more than so many bytes have come. -/
def Drain.upTo (limit : Nat) : Drain Bytes where
  write chunk got :=
    if (got ++ chunk).length ≤ limit then (none, got ++ chunk)
    else (some .broken, (got ++ chunk).take limit)
  flush got := (none, got)
  close got := (none, got)

namespace Intake

variable {i j : Intake} {amount size limit : Nat} {p : Pump.Progress Channel Bytes}

/-- The pump that feeds a pipe, which it closes in the end, from a stream, which it leaves open. -/
def feeder (limit : Nat) : Pump Channel Bytes := ⟨Channel.supply, .upTo limit, false, true⟩

/-- What has come to the pipe. -/
def passed (i : Intake) : Bytes := i.taken ++ i.pipe.content

/-- Where the feeder stands: a chunk of which only a front has come to the pipe is still being
written. -/
def Stands (i : Intake) (p : Pump.Progress Channel Bytes) : Prop :=
  p.source = i.source ∧
    match i.phase with
    | .holding rest =>
      rest ≠ [] ∧ ∃ front, p.point = .writing (front ++ rest) ∧ p.sink ++ front = i.passed
    | phase => p.point = phase.point ∧ p.sink = i.passed

/-- What a turn at the input may do to what has come to the pipe: it adds to it, unless the program
has closed its end, and then this stays so. -/
def Passes (i j : Intake) : Prop :=
  i.passed <+: j.passed ∧
    (i.pipe.readable = false → j.pipe.readable = false ∧ j.passed = i.passed)

theorem Passes.refl (i : Intake) : i.Passes i := ⟨List.prefix_rfl, fun h => ⟨h, rfl⟩⟩

theorem Passes.trans {k : Intake} (h : i.Passes j) (h' : j.Passes k) : i.Passes k := by
  refine ⟨h.1.trans h'.1, fun hshut => ?_⟩
  obtain ⟨hshut', hsame⟩ := h.2 hshut
  obtain ⟨hshut'', hsame'⟩ := h'.2 hshut'
  exact ⟨hshut'', hsame'.trans hsame⟩

theorem passes_of_pump? (h : i.pump? amount = some j) : i.Passes j := by
  rcases pump?_cases h with ⟨chunk, source, -, -, rfl⟩ | ⟨rest, part, pipe, -, hopen, hwrite, rfl⟩ |
    ⟨rest, -, -, rfl⟩ | ⟨-, rfl⟩
  · exact .refl i
  · obtain ⟨-, -, hcontent, -, -⟩ := Conduit.write?_some hwrite
    have hpassed : passed { i with pipe, phase := .onWrite (rest.drop part.length) } =
        i.passed ++ part := by
      simp only [passed, hcontent, List.append_assoc]
    refine ⟨⟨part, hpassed.symm⟩, fun hshut => ?_⟩
    rw [hopen] at hshut
    cases hshut
  · exact .refl i
  · exact .refl i

theorem passes_of_read? {answer : Option Bytes} (h : i.read? size amount = some (answer, j)) :
    i.Passes j := by
  unfold read? at h
  split at h
  · next hopen =>
    obtain ⟨⟨data, pipe⟩, hread, hj⟩ := Option.map_eq_some_iff.1 h
    cases hj
    obtain ⟨hsplit, -, -⟩ := Conduit.read?_some hread
    have hpassed : passed { i with pipe, taken := i.taken ++ data } = i.passed := by
      simp only [passed, List.append_assoc, hsplit]
    refine ⟨hpassed ▸ List.prefix_rfl, fun hshut => ?_⟩
    rw [hopen] at hshut
    cases hshut
  · cases h
    exact .refl i

theorem Stands.of_read? {answer : Option Bytes} (hp : i.Stands p)
    (h : i.read? size amount = some (answer, j)) : j.Stands p := by
  unfold read? at h
  split at h
  · obtain ⟨⟨data, pipe⟩, hread, hj⟩ := Option.map_eq_some_iff.1 h
    cases hj
    obtain ⟨hsplit, -, -⟩ := Conduit.read?_some hread
    have hpassed : passed { i with pipe, taken := i.taken ++ data } = i.passed := by
      simp only [passed, List.append_assoc, hsplit]
    unfold Stands at hp ⊢
    rwa [hpassed]
  · cases h
    exact hp

/-- A turn of the pump is made of calls of the feeder. A chunk of which only a part finds room takes
several turns. -/
theorem Stands.pump (hp : i.Stands p) (h : i.pump? amount = some j)
    (hlimit : j.passed.length ≤ limit)
    (hbroken : i.pipe.readable = false → i.passed.length = limit) :
    ∃ q, (feeder limit).Reaches p q ∧ j.Stands q := by
  obtain ⟨point, source, sent, calls⟩ := p
  obtain ⟨rfl, hstands⟩ := hp
  rcases pump?_cases h with ⟨chunk, source, hphase, hread, rfl⟩ |
    ⟨rest, part, pipe, hphase, -, hwrite, rfl⟩ | ⟨rest, hphase, hshut, rfl⟩ | ⟨hphase, rfl⟩
  · rw [hphase] at hstands
    obtain ⟨rfl, rfl⟩ := hstands
    refine ⟨_, .cons (Pump.step?_reading hread calls) (.refl ..), rfl, ?_⟩
    by_cases hchunk : chunk = []
    · subst hchunk
      exact ⟨rfl, rfl⟩
    · simp only [Phase.onRead, if_neg hchunk]
      exact ⟨hchunk, [], rfl, List.append_nil _⟩
  · rw [hphase] at hstands
    obtain ⟨-, front, rfl, hsent⟩ := hstands
    obtain ⟨hsplit, -, hcontent, -, -⟩ := Conduit.write?_some hwrite
    have hpassed (phase : Phase) : passed { i with pipe, phase } = sent ++ (front ++ part) := by
      rw [← List.append_assoc, hsent]
      simp only [passed, hcontent, List.append_assoc]
    by_cases hrest : rest.drop part.length = []
    · -- the last part of the chunk has come to the pipe, so the write comes back
      rw [hrest, List.append_nil] at hsplit
      rw [hpassed, hsplit] at hlimit
      have hcall : (Drain.upTo limit).write (front ++ rest) sent =
          (none, sent ++ (front ++ rest)) := if_pos hlimit
      refine ⟨_, .cons (Pump.step?_writing hcall calls) (.cons rfl (.refl ..)), rfl, ?_⟩
      rw [hrest]
      exact ⟨rfl, by rw [hpassed, hsplit]; rfl⟩
    · refine ⟨_, .refl .., rfl, ?_⟩
      simp only [Phase.onWrite, if_neg hrest]
      exact ⟨hrest, front ++ part, by rw [List.append_assoc, hsplit], (hpassed _).symm⟩
  · rw [hphase] at hstands
    obtain ⟨hrest, front, rfl, hsent⟩ := hstands
    have hlength := hbroken hshut
    have hcall : (Drain.upTo limit).write (front ++ rest) sent = (some .broken, i.passed) := by
      have hfull : ¬(i.passed ++ rest).length ≤ limit := by
        have hpositive : 0 < rest.length := List.length_pos_iff.2 hrest
        rw [List.length_append]
        omega
      have hsent : sent ++ (front ++ rest) = i.passed ++ rest := by
        rw [← List.append_assoc, ← hsent]
      simp only [Drain.upTo]
      rw [hsent, if_neg hfull, ← hlength, List.take_left]
    exact ⟨_, .cons (Pump.step?_writing hcall calls) (.refl ..), rfl, rfl, rfl⟩
  · rw [hphase] at hstands
    obtain ⟨rfl, rfl⟩ := hstands
    exact ⟨_, .cons rfl (.cons rfl (.refl ..)), rfl, rfl, rfl⟩

theorem Passes.shut (i : Intake) : i.Passes i.shut := ⟨List.prefix_rfl, fun _ => ⟨rfl, rfl⟩⟩

theorem Stands.shut (hp : i.Stands p) : i.shut.Stands p := hp

end Intake

/-! ### Whole runs -/

namespace Relay

variable {child : Child} {source : Channel} {feeds : Bool} {r t : Relay child} {move : RelayMove}
  {moves : List RelayMove} {amount : Nat}

theorem intake_of_step? (h : r.step? move = some t) :
    t.intake = r.intake ∨ (∃ amount, r.intake.pump? amount = some t.intake) ∨
      (∃ size amount answer, r.intake.read? size amount = some (answer, t.intake)) ∨
        t.intake = r.intake.shut := by
  cases move with
  | program amount =>
    simp only [step?, proceed?] at h
    split at h
    · cases h
    · split at h
      · obtain ⟨⟨answer, intake⟩, hread, rfl⟩ := Option.map_eq_some_iff.1 h
        exact .inr (.inr (.inl ⟨_, amount, answer, hread⟩))
      · obtain ⟨⟨answer, f⟩, -, rfl⟩ := Option.map_eq_some_iff.1 h
        exact .inl rfl
      · cases h
        exact .inr (.inr (.inr rfl))
      · cases h
        exact .inl rfl
      · cases h
        exact .inr (.inr (.inr rfl))
  | feed amount =>
    obtain ⟨intake, hpump, rfl⟩ := Option.map_eq_some_iff.1 h
    exact .inr (.inl ⟨amount, hpump⟩)
  | drain o amount =>
    obtain ⟨⟨pieces, f⟩, -, rfl⟩ := Option.map_eq_some_iff.1 h
    exact .inl rfl

theorem passes_of_step? (h : r.step? move = some t) : r.intake.Passes t.intake := by
  rcases intake_of_step? h with heq | ⟨amount, hpump⟩ | ⟨size, amount, answer, hread⟩ | heq
  · rw [heq]
    exact .refl _
  · exact Intake.passes_of_pump? hpump
  · exact Intake.passes_of_read? hread
  · rw [heq]
    exact .shut _

theorem passes_of_run? (h : r.run? moves = some t) : r.intake.Passes t.intake := by
  induction moves generalizing r with
  | nil =>
    cases h
    exact .refl _
  | cons move rest ih =>
    obtain ⟨u, hstep, hrest⟩ := Option.bind_eq_some_iff.1 h
    exact (passes_of_step? hstep).trans (ih hrest)

/-- The feeder follows the pump of the input. The limit of its sink is what has come to the pipe in
the end, which the program stops early if it closes its end. -/
theorem stands_of_run? {p : Pump.Progress Channel Bytes} (hp : r.intake.Stands p)
    (h : r.run? moves = some t) :
    ∃ q, (Intake.feeder t.intake.passed.length).Reaches p q ∧ t.intake.Stands q := by
  induction moves generalizing r p with
  | nil =>
    cases h
    exact ⟨p, .refl .., hp⟩
  | cons move rest ih =>
    obtain ⟨u, hstep, hrest⟩ := Option.bind_eq_some_iff.1 h
    have hpasses := passes_of_run? hrest
    have hturn : ∃ q, (Intake.feeder t.intake.passed.length).Reaches p q ∧ u.intake.Stands q := by
      rcases intake_of_step? hstep with heq | ⟨amount, hpump⟩ | ⟨size, amount, answer, hread⟩ | heq
      · exact ⟨p, .refl .., heq ▸ hp⟩
      · refine hp.pump hpump hpasses.1.length_le fun hshut => ?_
        obtain ⟨-, hsame⟩ := (passes_of_run? h).2 hshut
        rw [hsame]
      · exact ⟨p, .refl .., hp.of_read? hread⟩
      · exact ⟨p, .refl .., heq ▸ hp.shut⟩
    obtain ⟨q, hq, hstands⟩ := hturn
    obtain ⟨q', hq', hstands'⟩ := ih hstands hrest
    exact ⟨q', hq.trans hq', hstands'⟩

/-- The chunks that one of the sinks has got. -/
def handed (r : Relay child) (o : Output) : List Bytes :=
  (r.delivered.filter (·.1 = o)).map (·.2)

theorem handed_append {pieces : List Bytes} {p : Output}
    (h : t.delivered = r.delivered ++ pieces.map (p, ·)) (o : Output) :
    t.handed o = r.handed o ++ if p = o then pieces else [] := by
  rw [handed, h, List.filter_append, List.map_append]
  congr 1
  split
  · next hp => simp [hp, List.filter_map, Function.comp_def]
  · next hp => simp [hp, List.filter_map, Function.comp_def]

theorem phase_proceed (h : r.proceed? amount = some t) :
    t.delivered = r.delivered ∧ ∀ o, (t.outflow o).phase = (r.outflow o).phase := by
  unfold proceed? at h
  split at h
  · cases h
  · split at h
    · obtain ⟨⟨answer, intake⟩, -, rfl⟩ := Option.map_eq_some_iff.1 h
      exact ⟨rfl, fun _ => rfl⟩
    · obtain ⟨⟨answer, f⟩, hwrite, rfl⟩ := Option.map_eq_some_iff.1 h
      refine ⟨rfl, fun o => ?_⟩
      simp only [withOutflow]
      split
      · next ho => rw [ho, Outflow.phase_write hwrite]
      · rfl
    · cases h
      exact ⟨rfl, fun _ => rfl⟩
    · cases h
      refine ⟨rfl, fun o => ?_⟩
      simp only [withOutflow]
      split
      · next ho => rw [ho, Outflow.shut]
      · rfl
    · cases h
      exact ⟨rfl, fun _ => rfl⟩

theorem drains_of_step? (h : r.step? move = some t) (o : Output) :
    ∃ pieces, t.handed o = r.handed o ++ pieces ∧ (r.outflow o).Drains pieces (t.outflow o) := by
  cases move with
  | program amount =>
    obtain ⟨hdelivered, hphase⟩ := phase_proceed h
    exact ⟨[], by rw [handed, hdelivered, List.append_nil, handed], .of_phase (hphase o)⟩
  | feed amount =>
    obtain ⟨intake, -, rfl⟩ := Option.map_eq_some_iff.1 h
    exact ⟨[], (List.append_nil _).symm, .of_phase rfl⟩
  | drain p amount =>
    obtain ⟨⟨pieces, f⟩, hpump, rfl⟩ := Option.map_eq_some_iff.1 h
    refine ⟨_, handed_append rfl o, ?_⟩
    by_cases hp : p = o
    · subst hp
      rw [if_pos rfl]
      simpa [withOutflow] using Outflow.drains_of_pump? hpump
    · rw [if_neg hp]
      exact .of_phase (by simp [withOutflow, Ne.symm hp])

theorem drains_of_run? (h : r.run? moves = some t) (o : Output) :
    ∃ pieces, t.handed o = r.handed o ++ pieces ∧ (r.outflow o).Drains pieces (t.outflow o) := by
  induction moves generalizing r with
  | nil =>
    cases h
    exact ⟨[], (List.append_nil _).symm, .of_phase rfl⟩
  | cons move rest ih =>
    obtain ⟨u, hstep, hrest⟩ := Option.bind_eq_some_iff.1 h
    obtain ⟨pieces, hhanded, hdrains⟩ := drains_of_step? hstep o
    obtain ⟨more, hhanded', hdrains'⟩ := ih hrest
    refine ⟨pieces ++ more, ?_, hdrains.trans hdrains'⟩
    rw [hhanded', hhanded, List.append_assoc]

/-- In every run of a relay its pumps make the calls of `_pump`: on the input with the stream that
it is given and a sink that may break, on each output with the chunks that it reads, which are what
the program has written up to what is still in the pipe. -/
theorem pumps_of_run? (hclosed : source.closed = true) (input : Capacity)
    (outputs : Output → Capacity)
    (h : (start child source feeds input outputs).run? moves = some r) :
    (feeds = true → ∃ limit p,
      (Intake.feeder limit).Reaches (Pump.start source []) p ∧ r.intake.Stands p) ∧
    ∀ o, ∃ chunks calls, chunks.flatten ++ (r.outflow o).pipe.content = (r.outflow o).written ∧
      Outflow.drainer.Reaches (Pump.start chunks [])
        ⟨(r.outflow o).phase.point, [], r.handed o, calls⟩ := by
  refine ⟨fun hfeeds => ?_, fun o => ?_⟩
  · subst hfeeds
    have hstart : (start child source true input outputs).intake.Stands (Pump.start source []) :=
      ⟨rfl, rfl, rfl⟩
    exact ⟨_, stands_of_run? hstart h⟩
  · obtain ⟨pieces, hhanded, chunks, hheld, hreach⟩ := drains_of_run? h o
    obtain ⟨calls, hcalls⟩ := hreach [] [] []
    have hsound := (sound_start child hclosed feeds input outputs).run h
    have harrived : r.arrived o = pieces.flatten := by
      rw [← List.nil_append pieces, ← show r.handed o = [] ++ pieces from hhanded]
      simp only [arrived, handed, List.flatMap_def]
    refine ⟨chunks, calls, ?_, ?_⟩
    · rw [← (hsound.outflow o).conserved, harrived, ← List.append_assoc, ← hheld]
      rfl
    · rw [List.append_nil] at hcalls
      rw [show r.handed o = [] ++ pieces from hhanded]
      exact hcalls

end Relay
end PipelineShell
