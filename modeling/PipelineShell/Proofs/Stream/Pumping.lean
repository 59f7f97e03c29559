import PipelineShell.Proofs.Stream.Copying
import PipelineShell.Proofs.Stream.Pump

/-!
# A pump copies its stream or a front of it

Runs of `_pump`: a front of the stream is copied, all of it unless a call on the sink fails, and
then the pump closes what it was told to. `Pump.run` is where such a run ends.
-/

namespace PipelineShell
namespace Pump

variable {ρ σ : Type} {pump : Pump ρ σ} {p q : Progress ρ σ} {r r' s : ρ}
  {raised fault : Option SinkFault} {call : Call} {calls : List Call} {chunk data : Bytes}
  {chunks : List Bytes} {point : Point}

/-! ### To the end -/

/-- Some number of steps leads from here to there. -/
def Reaches (pump : Pump ρ σ) (p q : Progress ρ σ) : Prop := ∃ n, pump.run? n p = some q

/-- The pump will be done. -/
def Halts (pump : Pump ρ σ) (p : Progress ρ σ) : Prop :=
  ∃ q raised, pump.Reaches p q ∧ q.point = .done raised

theorem Reaches.refl (pump : Pump ρ σ) (p : Progress ρ σ) : pump.Reaches p p := ⟨0, rfl⟩

theorem Reaches.cons {q' : Progress ρ σ} (hs : pump.step? p = some q) (h : pump.Reaches q q') :
    pump.Reaches p q' := by
  obtain ⟨n, hn⟩ := h
  exact ⟨n + 1, Option.bind_eq_some_iff.2 ⟨q, hs, hn⟩⟩

theorem Reaches.trans {q' : Progress ρ σ} (h : pump.Reaches p q) (h' : pump.Reaches q q') :
    pump.Reaches p q' := by
  obtain ⟨n, hn⟩ := h
  induction n generalizing p with
  | zero =>
    cases hn
    exact h'
  | succ n ih =>
    obtain ⟨p', hstep, hrun⟩ := Option.bind_eq_some_iff.1 hn
    exact .cons hstep (ih hrun)

@[simp] theorem point_closeSource :
    (pump.closeSource raised p).point = .closingSink raised := by
  unfold closeSource
  split <;> rfl

@[simp] theorem source_closeSource : (pump.closeSource raised p).source =
    if pump.closesSource then pump.supply.close p.source else p.source := by
  unfold closeSource
  split <;> rfl

@[simp] theorem sink_closeSource : (pump.closeSource raised p).sink = p.sink := by
  unfold closeSource
  split <;> rfl

@[simp] theorem source_closeSink : (pump.closeSink raised p).source = p.source := by
  unfold closeSink
  split <;> rfl

@[simp] theorem sink_closeSink : (pump.closeSink raised p).sink =
    if pump.closesSink then (pump.drain.close p.sink).2 else p.sink := by
  unfold closeSink
  split <;> rfl

theorem point_closeSink (pump : Pump ρ σ) (raised : Option SinkFault) (p : Progress ρ σ) :
    ∃ raised', (pump.closeSink raised p).point = .done raised' := by
  unfold closeSink
  split
  · exact ⟨_, rfl⟩
  · exact ⟨_, rfl⟩

theorem halts_of_done (h : p.point = .done raised) : pump.Halts p := ⟨p, raised, .refl pump p, h⟩

theorem reaches_of_closingSink (h : p.point = .closingSink raised) :
    pump.Reaches p (pump.closeSink raised p) :=
  .cons (by simp only [step?, h]) (.refl ..)

theorem halts_of_closingSink (h : p.point = .closingSink raised) : pump.Halts p := by
  obtain ⟨raised', hdone⟩ := pump.point_closeSink raised p
  exact ⟨_, raised', reaches_of_closingSink h, hdone⟩

theorem reaches_of_closingSource (h : p.point = .closingSource raised) :
    pump.Reaches p (pump.closeSink raised (pump.closeSource raised p)) :=
  .cons (by simp only [step?, h]) (reaches_of_closingSink point_closeSource)

theorem halts_of_closingSource (h : p.point = .closingSource raised) : pump.Halts p := by
  obtain ⟨raised', hdone⟩ := pump.point_closeSink raised (pump.closeSource raised p)
  exact ⟨_, raised', reaches_of_closingSource h, hdone⟩

/-- What becomes of a chunk: the sink fails at its writing or at its flushing, or it is copied. -/
inductive Fate (drain : Drain σ) (chunk : Bytes) (s t : σ) : Point → Prop
  | unwritten {fault : SinkFault} (written : drain.write chunk s = (some fault, t)) :
      Fate drain chunk s t (.closingSource fault.passedOn?)
  | unflushed {u : σ} {fault : SinkFault} (written : drain.write chunk s = (none, u))
      (flushed : drain.flush u = (some fault, t)) :
      Fate drain chunk s t (.closingSource fault.passedOn?)
  | copied {u : σ} (written : drain.write chunk s = (none, u))
      (flushed : drain.flush u = (none, t)) : Fate drain chunk s t .reading

theorem reaches_of_chunk (hp : p.point = .reading)
    (read : pump.supply.read? chunkSize p.source = some (chunk, r')) (full : chunk ≠ []) :
    ∃ q, pump.Reaches p q ∧ q.source = r' ∧ Fate pump.drain chunk p.sink q.sink q.point := by
  obtain ⟨point, source, sink, calls⟩ := p
  obtain rfl : point = .reading := hp
  have hread : pump.step? ⟨.reading, source, sink, calls⟩ =
      some ⟨.writing chunk, r', sink, calls ++ [.read chunk]⟩ := by
    simp only [step?, read?, read, Option.map_some, List.isEmpty_eq_false_iff.2 full,
      Bool.false_eq_true, ↓reduceIte]
  have hwrite {fault : Option SinkFault} {t : σ} (calls : List Call)
      (written : pump.drain.write chunk sink = (fault, t)) :
      pump.step? ⟨.writing chunk, r', sink, calls⟩ =
        some ⟨Point.flushing.after fault, r', t, calls ++ [.write chunk fault]⟩ := by
    simp only [step?, write, written]
  have hflush {fault : Option SinkFault} {t u : σ} (calls : List Call)
      (flushed : pump.drain.flush t = (fault, u)) :
      pump.step? ⟨.flushing, r', t, calls⟩ =
        some ⟨Point.reading.after fault, r', u, calls ++ [.flush fault]⟩ := by
    simp only [step?, flush, flushed]
  rcases hw : pump.drain.write chunk sink with ⟨_ | fault, t⟩
  · rcases hf : pump.drain.flush t with ⟨_ | fault, u⟩
    · exact ⟨_, .cons hread (.cons (hwrite _ hw) (.cons (hflush _ hf) (.refl ..))), rfl,
        .copied hw hf⟩
    · exact ⟨_, .cons hread (.cons (hwrite _ hw) (.cons (hflush _ hf) (.refl ..))), rfl,
        .unflushed hw hf⟩
  · exact ⟨_, .cons hread (.cons (hwrite _ hw) (.refl ..)), rfl, .unwritten hw⟩

theorem reaches_of_end (hp : p.point = .reading)
    (read : pump.supply.read? chunkSize p.source = some ([], r')) :
    ∃ q, pump.Reaches p q ∧ q.source = r' ∧ q.sink = p.sink ∧ q.point = .closingSource none := by
  have hread : pump.step? p = some ⟨.closingSource none, r', p.sink, p.calls ++ [.read []]⟩ := by
    simp only [step?, hp, read?, read, Option.map_some, List.isEmpty_nil, ↓reduceIte]
  exact ⟨_, .cons hread (.refl ..), rfl, rfl, rfl⟩

theorem Halts.of_reaches (h : pump.Reaches p q) (hq : pump.Halts q) : pump.Halts p := by
  obtain ⟨q', raised, hq', hdone⟩ := hq
  exact ⟨q', raised, h.trans hq', hdone⟩

theorem halts_of_holds (hp : p.point = .reading) (h : pump.supply.Holds p.source data) :
    pump.Halts p := by
  obtain ⟨chunks, e, e', hgives, hend, -⟩ := h
  generalize hsource : p.source = r at hgives
  induction hgives generalizing p with
  | nil r =>
    obtain ⟨q, hq, -, -, hclosing⟩ := reaches_of_end hp (hsource ▸ hend)
    exact .of_reaches hq (halts_of_closingSource hclosing)
  | cons read full _ ih =>
    obtain ⟨q, hq, hrest, hfate⟩ := reaches_of_chunk hp (hsource ▸ read) full
    refine .of_reaches hq ?_
    generalize hpoint : q.point = point at hfate
    cases hfate with
    | unwritten written => exact halts_of_closingSource hpoint
    | unflushed written flushed => exact halts_of_closingSource hpoint
    | copied written flushed => exact ih hpoint hend hrest

theorem Fate.copy_eq {source : Source ρ} {drain : Drain σ} {s t : σ}
    (full : (source.read r).1 ≠ []) (h : Fate drain (source.read r).1 s t point) :
    (point = .reading ∧
      copy source drain.sink r s = copy source drain.sink (source.read r).2 t) ∨
    ∃ raised, point = .closingSource raised ∧
      copy source drain.sink r s = ((source.read r).2, t) := by
  cases h with
  | unwritten written =>
    refine .inr ⟨_, rfl, ?_⟩
    rw [copy]
    simp [full, Drain.sink, written]
  | unflushed written flushed =>
    refine .inr ⟨_, rfl, ?_⟩
    rw [copy]
    simp [full, Drain.sink, written, flushed]
  | @copied u written flushed =>
    have hwritten : drain.sink.write (source.read r).1 s = (u, true) := by
      simp [Drain.sink, written]
    have hflushed : drain.sink.flush u = (t, true) := by simp [Drain.sink, flushed]
    exact .inl ⟨rfl, copy_piece source drain.sink full hwritten hflushed⟩

theorem reaches_copy {source : Source ρ} (hsupply : pump.supply = source.supply)
    (hp : p.point = .reading) :
    ∃ q raised, pump.Reaches p q ∧ q.point = .closingSource raised ∧
      (q.source, q.sink) = copy source pump.drain.sink p.source p.sink := by
  have hread (r : ρ) : pump.supply.read? chunkSize r = some (source.read r) := by
    rw [hsupply]
    rfl
  -- each chunk leaves less to read
  induction hn : (source.content p.source).length using Nat.strongRecOn generalizing p with
  | ind n ih =>
    by_cases hchunk : (source.read p.source).1 = []
    · have hend : pump.supply.read? chunkSize p.source = some ([], (source.read p.source).2) := by
        rw [hread, ← hchunk]
      obtain ⟨q, hq, hsource, hsink, hclosing⟩ := reaches_of_end hp hend
      refine ⟨q, none, hq, hclosing, ?_⟩
      rw [copy_eof source pump.drain.sink p.sink hchunk, hsource, hsink]
    · have hlt := source.length_content_lt hchunk
      obtain ⟨q, hq, hsource, hfate⟩ := reaches_of_chunk hp (hread p.source) hchunk
      rcases hfate.copy_eq hchunk with ⟨hpoint, hcopy⟩ | ⟨raised, hclosing, hcopy⟩
      · rw [← hsource] at hcopy hlt
        obtain ⟨q', raised, hq', hclosing, hcopy'⟩ := ih _ (by omega) hpoint rfl
        exact ⟨q', raised, hq.trans hq', hclosing, hcopy'.trans hcopy.symm⟩
      · refine ⟨q, raised, hq, hclosing, ?_⟩
        rw [hcopy, hsource]

theorem reaches_run {source : Source ρ} (hsupply : pump.supply = source.supply) (r : ρ) (s : σ) :
    ∃ q raised, pump.Reaches (start r s) q ∧ q.point = .done raised ∧
      (q.source, q.sink) = run source pump.drain.sink pump.closesSource pump.closesSink r s := by
  obtain ⟨p, raised, hp, hclosing, hcopy⟩ := reaches_copy hsupply (p := start r s) rfl
  obtain ⟨raised', hdone⟩ := pump.point_closeSink raised (pump.closeSource raised p)
  refine ⟨_, raised', hp.trans (reaches_of_closingSource hclosing), hdone, ?_⟩
  have hcopied : copy source pump.drain.sink r s = (p.source, p.sink) := hcopy.symm
  unfold run
  rw [hcopied]
  simp [hsupply, Source.supply, Drain.sink]

/-! ### What comes of it -/

theorem Follows.halts (h : Follows pump r p) (hcall : call ∈ p.calls)
    (hfault : call.fault ≠ none) : pump.Halts p := by
  unfold Follows at h
  generalize hpoint : p.point = point at h
  generalize p.calls = calls at h hcall
  cases h with
  | copying given begun =>
    rcases begun.fault_or_closing with hnone | ⟨raised, rfl⟩
    · rcases List.mem_append.1 hcall with hcall | hcall
      · exact absurd (fault_of_copied hcall) hfault
      · exact absurd (hnone call hcall) hfault
    · exact halts_of_closingSource hpoint
  | closingSink given begun => exact halts_of_closingSink hpoint
  | done given begun fault closed => exact halts_of_done hpoint

/-- What holds of a pump that is done. -/
structure Finished (pump : Pump ρ σ) (r : ρ) (raised : Option SinkFault) (calls : List Call) :
    Prop where
  /-- Unless a write or a flush has failed, just the whole stream has come to the sink. -/
  whole : (∀ call ∈ calls, call.closes = false → call.fault = none) →
    ∀ data, Arrives calls data ↔ pump.supply.Holds r data
  /-- No break is passed on, and nothing that is not the fault of a call. -/
  raises : ∀ fault, raised = some fault →
    fault ≠ .broken ∧ ∃ call ∈ calls, call.fault = some fault
  /-- When nothing is passed on there were no faults but breaks. -/
  breaks : raised = none → ∀ call ∈ calls, ∀ fault, call.fault = some fault → fault = .broken
  source_closed : calls.countP Call.closesSource = if pump.closesSource then 1 else 0
  sink_closed : calls.countP Call.closesSink = if pump.closesSink then 1 else 0

/-- What holds of a pump that was started at a stream, however far it has come. -/
structure Pumped (pump : Pump ρ σ) (r : ρ) (p : Progress ρ σ) : Prop where
  /-- What has come to the sink has been read off the front of the stream, in order. -/
  front : ∀ data, Arrives p.calls data →
    ∃ chunks r', pump.supply.Gives r chunks r' ∧ data <+: chunks.flatten
  /-- It is a front of all that the stream holds. -/
  within : ∀ data all, Arrives p.calls data → pump.supply.Holds r all → data <+: all
  /-- Behind a call that failed there is only closing. -/
  silent : Silent p.calls
  /-- A pump that does not go on is done, or its stream makes it wait for ever. -/
  stops : pump.step? p = none → (∃ raised, p.point = .done raised) ∨
    p.point = .reading ∧ pump.supply.read? chunkSize p.source = none
  /-- After a call that failed it does not wait, and comes to be done. -/
  ends : (∃ call ∈ p.calls, call.fault ≠ none) → pump.Halts p
  finished : ∀ raised, p.point = .done raised → Finished pump r raised p.calls

theorem Begun.whole {supply : Supply ρ} {closings : List Call} (given : supply.Gives r chunks s)
    (begun : Begun supply s (.closingSource raised) calls r')
    (hcalls : ∀ call ∈ calls, call.fault = none)
    (hclosings : ∀ call ∈ closings, call.closes = true) :
    Arrives (chunks.flatMap copied ++ calls ++ closings) data ↔ supply.Holds r data := by
  obtain ⟨rfl, hend⟩ := begun.ended_of_closing hcalls
  have hholds : supply.Holds r chunks.flatten := ⟨chunks, s, r', given, hend, rfl⟩
  have harrives : Arrives (chunks.flatMap copied ++ [.read []] ++ closings) data ↔
      data = chunks.flatten := by
    simp [arrives_of_closes hclosings, arrives_append, arrives_copied, arrives_cons, Call.Brings,
      eq_comm]
  rw [harrives]
  refine ⟨?_, fun h => h.unique hholds⟩
  rintro rfl
  exact hholds

theorem Begun.countP_closings {supply : Supply ρ} {f : Call → Bool}
    (hf : ∀ call, f call = true → call.closes = true) (begun : Begun supply s point calls r')
    (closings : List Call) :
    (chunks.flatMap copied ++ calls ++ closings).countP f = closings.countP f := by
  have hcopying : (chunks.flatMap copied ++ calls).countP f = 0 := by
    refine List.countP_eq_zero.2 fun call hcall hclosing => ?_
    have hopen : call.closes = false := by
      rcases List.mem_append.1 hcall with hcall | hcall
      · exact closes_of_copied hcall
      · exact begun.closes hcall
    rw [hf call hclosing] at hopen
    cases hopen
  rw [List.countP_append, hcopying, Nat.zero_add]

theorem Course.finished (h : Course pump r (.done raised) calls r') :
    Finished pump r raised calls := by
  generalize hpoint : Point.done raised = point at h
  cases h with
  | copying given begun => cases begun <;> cases hpoint
  | closingSink given begun => cases hpoint
  | @done chunks s _ _ _ calls given begun fault closed =>
    cases hpoint
    rw [List.append_assoc (_ ++ _)]
    constructor
    case whole =>
      intro hcalls data
      have hnone (call : Call) (hcall : call ∈ calls) : call.fault = none :=
        hcalls call (by simp [hcall]) (begun.closes hcall)
      exact begun.whole given hnone fun _ => closes_of_closings
    case raises =>
      intro passed hpassed
      rcases Option.or_eq_some_iff.1 hpassed with hpassed | ⟨-, hraised⟩
      · obtain ⟨cause, rfl, hcause⟩ := Option.bind_eq_some_iff.1 hpassed
        obtain ⟨rfl, hne⟩ := passedOn?_eq_some.1 hcause
        refine ⟨hne, .closeSink (some cause), ?_, rfl⟩
        simp [sinkClosings, closed (by simp)]
      · obtain ⟨hne, call, hcall, hfault⟩ := begun.raises hraised
        exact ⟨hne, call, by simp [hcall], hfault⟩
    case breaks =>
      intro hnone call hcall cause hcause
      obtain ⟨hsink, hraised⟩ := Option.or_eq_none_iff.1 hnone
      rcases List.mem_append.1 hcall with hcall | hcall
      · rcases List.mem_append.1 hcall with hcall | hcall
        · rw [fault_of_copied hcall] at hcause
          cases hcause
        · exact begun.breaks hraised hcall hcause
      · obtain rfl | rfl := eq_of_closings hcall
        · cases hcause
        · rw [show fault = some cause from hcause] at hsink
          exact passedOn?_eq_none.1 hsink
    case source_closed =>
      rw [begun.countP_closings (by simp +contextual [Call.closes])]
      unfold sourceClosings sinkClosings
      cases pump.closesSource <;> cases pump.closesSink <;> rfl
    case sink_closed =>
      rw [begun.countP_closings (by simp +contextual [Call.closes])]
      unfold sourceClosings sinkClosings
      cases pump.closesSource <;> cases pump.closesSink <;> rfl

theorem stops_of_step? (h : pump.step? p = none) : (∃ raised, p.point = .done raised) ∨
    p.point = .reading ∧ pump.supply.read? chunkSize p.source = none := by
  unfold step? at h
  generalize p.point = point at h ⊢
  cases point with
  | reading => exact .inr ⟨rfl, Option.map_eq_none_iff.1 h⟩
  | done raised => exact .inl ⟨raised, rfl⟩
  | writing | flushing | closingSource | closingSink => cases h

theorem pumped_of_follows (h : Follows pump r p) : Pumped pump r p where
  front _ ha := Course.front h ha
  within _ _ ha hall := by
    obtain ⟨chunks, r', hgives, hfront⟩ := Course.front h ha
    exact hfront.trans (hgives.prefix_of_holds hall)
  silent := Course.silent h
  stops := stops_of_step?
  ends hcall := by
    obtain ⟨call, hmem, hfault⟩ := hcall
    exact h.halts hmem hfault
  finished raised hdone := by
    unfold Follows at h
    rw [hdone] at h
    exact h.finished

/-- A pump copies its stream to its sink up to the end or to a call that fails, and closes what it
is to close; it is done with a stream that has an end, such as that of a closed channel. -/
theorem copies_or_breaks (drain : Drain σ) (closesSource closesSink : Bool) (s : σ) :
    (∀ (ρ : Type) (supply : Supply ρ) (r : ρ) (p : Progress ρ σ),
      Reaches ⟨supply, drain, closesSource, closesSink⟩ (start r s) p →
        Pumped ⟨supply, drain, closesSource, closesSink⟩ r p) ∧
    (∀ (ρ : Type) (source : Source ρ) (r : ρ),
      (∀ data, source.supply.Holds r data ↔ data = source.content r) ∧
      ∃ p raised, Reaches ⟨source.supply, drain, closesSource, closesSink⟩ (start r s) p ∧
        p.point = .done raised ∧
        (p.source, p.sink) = run source drain.sink closesSource closesSink r s) ∧
    ∀ (es : List Channel.Exchange) (q : ChunkQueue),
      Channel.Exchanges ChunkQueue.serve? {} es q → .close ∈ Channel.requests es →
        (∀ data, ChunkQueue.supply.Holds q data ↔
          Channel.returned es ++ data = Channel.accepted es) ∧
        Halts ⟨ChunkQueue.supply, drain, closesSource, closesSink⟩ (start q s) := by
  refine ⟨fun ρ supply r p h => ?_, fun ρ source r => ?_, fun es q hes hclose => ?_⟩
  · obtain ⟨n, hn⟩ := h
    exact pumped_of_follows (follows_run (follows_start _ r s) hn)
  · exact ⟨source.holds_iff r, reaches_run rfl r s⟩
  · obtain ⟨hchannel, hkept⟩ := ChunkQueue.kept_empty.exchanges hes
    have hclosed : q.closed = true := hchannel.closed.2 (.inr hclose)
    have hcontent : Channel.returned es ++ q.channel.content = Channel.accepted es :=
      hchannel.content
    have hholds := hkept.holds_iff hclosed
    refine ⟨fun data => ?_, halts_of_holds rfl ((hholds _).2 rfl)⟩
    rw [hholds, ← hcontent, List.append_cancel_left_eq]

/-- A sink that breaks at its second chunk and again on being closed. -/
def brittle : Drain Nat where
  write _ n := if n = 0 then (none, 1) else (some .broken, n)
  flush n := (none, n)
  close n := (some .broken, n)

/-- The queue of a closed channel with two chunks. -/
def twoChunks : ChunkQueue := { entries := [some [1, 2], some [3], none], closed := true }

theorem copies_or_breaks_brittle :
    ∃ es p, Channel.Exchanges ChunkQueue.serve? {} es twoChunks ∧ .close ∈ Channel.requests es ∧
      Halts ⟨ChunkQueue.supply, brittle, true, true⟩ (start twoChunks 0) ∧
      Reaches ⟨ChunkQueue.supply, brittle, true, true⟩ (start twoChunks 0) p ∧
      p.point = .done none ∧
      p.calls = [.read [1, 2], .write [1, 2] none, .flush none, .read [3],
        .write [3] (some .broken), .closeSource, .closeSink (some .broken)] ∧
      Pumped ⟨ChunkQueue.supply, brittle, true, true⟩ twoChunks p := by
  have hes : Channel.Exchanges ChunkQueue.serve? {}
      [(.write [1, 2], .written 2), (.write [3], .written 1), (.close, .done)] twoChunks :=
    .cons rfl (.cons rfl (.cons rfl (.nil _)))
  have hrun : Reaches ⟨ChunkQueue.supply, brittle, true, true⟩ (start twoChunks 0)
      ⟨.done none, { entries := [none], closed := true }, 1, [.read [1, 2], .write [1, 2] none,
        .flush none, .read [3], .write [3] (some .broken), .closeSource,
        .closeSink (some .broken)]⟩ := ⟨7, by decide⟩
  exact ⟨_, _, hes, by decide, ((copies_or_breaks brittle true true 0).2.2 _ _ hes (by decide)).2,
    hrun, rfl, rfl, (copies_or_breaks brittle true true 0).1 _ _ _ _ hrun⟩

end Pump
end PipelineShell
