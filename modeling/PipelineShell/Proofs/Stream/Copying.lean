import PipelineShell.Proofs.Stream.Supply

/-!
# The calls of a pump

The calls that `_pump` has made when it stands at a point, as a step invariant: whole chunks copied,
then the calls for one chunk, then only closing.
-/

namespace PipelineShell

variable {ρ σ : Type}

namespace Pump

/-! ### Calls -/

namespace Call

/-- How a call on the sink has failed. -/
def fault : Call → Option SinkFault
  | .write _ fault | .flush fault | .closeSink fault => fault
  | .read _ | .closeSource => none

def closesSource : Call → Bool
  | .closeSource => true
  | _ => false

def closesSink : Call → Bool
  | .closeSink _ => true
  | _ => false

/-- What is done when the copying is over. -/
def closes (call : Call) : Bool := call.closesSource || call.closesSink

/-- What has come to the sink by a call. Of a chunk whose writing failed that may be any front. -/
def Brings : Call → Bytes → Prop
  | .write chunk none, data => data = chunk
  | .write chunk (some _), data => data <+: chunk
  | _, data => data = []

end Call

variable {pump : Pump ρ σ} {p q : Progress ρ σ} {r r' s : ρ} {raised fault : Option SinkFault}
  {call : Call} {calls : List Call} {chunk data : Bytes} {chunks : List Bytes} {point : Point}

/-- What has come to the sink by some calls. -/
inductive Arrives : List Call → Bytes → Prop
  | nil : Arrives [] []
  | cons {call : Call} {calls : List Call} {part data : Bytes} (brought : call.Brings part)
      (rest : Arrives calls data) : Arrives (call :: calls) (part ++ data)

theorem arrives_nil : Arrives [] data ↔ data = [] := by
  refine ⟨fun h => ?_, ?_⟩
  · cases h
    rfl
  · rintro rfl
    exact .nil

theorem arrives_cons :
    Arrives (call :: calls) data ↔
      ∃ part rest, call.Brings part ∧ Arrives calls rest ∧ part ++ rest = data := by
  refine ⟨fun h => ?_, ?_⟩
  · cases h with
    | cons brought rest => exact ⟨_, _, brought, rest, rfl⟩
  · rintro ⟨part, rest, hpart, hrest, rfl⟩
    exact .cons hpart hrest

theorem arrives_append {before after : List Call} :
    Arrives (before ++ after) data ↔
      ∃ front back, Arrives before front ∧ Arrives after back ∧ front ++ back = data := by
  induction before generalizing data with
  | nil => simp [arrives_nil]
  | cons call before ih =>
    rw [List.cons_append, arrives_cons]
    refine ⟨?_, ?_⟩
    · rintro ⟨part, rest, hpart, hrest, rfl⟩
      obtain ⟨front, back, hfront, hback, rfl⟩ := ih.1 hrest
      exact ⟨part ++ front, back, .cons hpart hfront, hback, List.append_assoc ..⟩
    · rintro ⟨front, back, hfront, hback, rfl⟩
      obtain ⟨part, rest, hpart, hrest, rfl⟩ := arrives_cons.1 hfront
      exact ⟨part, rest ++ back, hpart, ih.2 ⟨rest, back, hrest, hback, rfl⟩,
        (List.append_assoc ..).symm⟩

theorem arrives_of_closes (h : ∀ call ∈ calls, call.closes = true) :
    Arrives calls data ↔ data = [] := by
  induction calls generalizing data with
  | nil => exact arrives_nil
  | cons call calls ih =>
    obtain ⟨hcall, hcalls⟩ := List.forall_mem_cons.1 h
    have hbrings (part : Bytes) : call.Brings part ↔ part = [] := by
      cases call with
      | closeSource | closeSink fault => exact Iff.rfl
      | read chunk | write chunk fault | flush fault => cases hcall
    simp only [arrives_cons, hbrings, ih hcalls, exists_and_left, exists_eq_left,
      List.append_nil, eq_comm]

/-- The calls by which a chunk is copied. -/
def copied (chunk : Bytes) : List Call := [.read chunk, .write chunk none, .flush none]

theorem arrives_copied : Arrives (chunks.flatMap copied) data ↔ data = chunks.flatten := by
  induction chunks generalizing data with
  | nil => exact arrives_nil
  | cons chunk chunks ih =>
    rw [List.flatMap_cons, arrives_append]
    simp only [copied, arrives_cons, arrives_nil, Call.Brings, ih, exists_and_left,
      exists_eq_left, exists_eq_left', List.append_nil, List.nil_append, List.flatten_cons, eq_comm]

theorem passedOn?_eq_some {fault fault' : SinkFault} :
    fault.passedOn? = some fault' ↔ fault = fault' ∧ fault' ≠ .broken := by
  cases fault with
  | broken =>
    refine ⟨?_, ?_⟩
    · rintro ⟨⟩
    · rintro ⟨rfl, hne⟩
      exact absurd rfl hne
  | other failure =>
    refine ⟨fun h => ?_, ?_⟩
    · cases h
      exact ⟨rfl, by simp⟩
    · rintro ⟨rfl, -⟩
      rfl

theorem passedOn?_eq_none {fault : SinkFault} : fault.passedOn? = none ↔ fault = .broken := by
  cases fault <;> simp [SinkFault.passedOn?]

/-! ### What has been done -/

/-- What has been done with a chunk that is not yet copied, at a stream in a state. -/
inductive Begun (supply : Supply ρ) (r : ρ) : Point → List Call → ρ → Prop
  | reading : Begun supply r .reading [] r
  | writing {chunk : Bytes} {r' : ρ} (read : supply.read? chunkSize r = some (chunk, r'))
      (full : chunk ≠ []) : Begun supply r (.writing chunk) [.read chunk] r'
  | flushing {chunk : Bytes} {r' : ρ} (read : supply.read? chunkSize r = some (chunk, r'))
      (full : chunk ≠ []) : Begun supply r .flushing [.read chunk, .write chunk none] r'
  | ended {r' : ρ} (read : supply.read? chunkSize r = some ([], r')) :
      Begun supply r (.closingSource none) [.read []] r'
  | unwritten {chunk : Bytes} {r' : ρ} (read : supply.read? chunkSize r = some (chunk, r'))
      (full : chunk ≠ []) (fault : SinkFault) :
      Begun supply r (.closingSource fault.passedOn?) [.read chunk, .write chunk (some fault)] r'
  | unflushed {chunk : Bytes} {r' : ρ} (read : supply.read? chunkSize r = some (chunk, r'))
      (full : chunk ≠ []) (fault : SinkFault) :
      Begun supply r (.closingSource fault.passedOn?)
        [.read chunk, .write chunk none, .flush (some fault)] r'

/-- The closing of the stream, if told to. -/
def sourceClosings (pump : Pump ρ σ) : List Call := if pump.closesSource then [.closeSource] else []

/-- The closing of the sink, if told to. -/
def sinkClosings (pump : Pump ρ σ) (fault : Option SinkFault) : List Call :=
  if pump.closesSink then [.closeSink fault] else []

/-- What has been done by the time a pump stands at a point: some chunks are copied, one may be
begun, and once the copying is over there is only closing. -/
inductive Course (pump : Pump ρ σ) (r : ρ) : Point → List Call → ρ → Prop
  | copying {chunks : List Bytes} {s r' : ρ} {point : Point} {calls : List Call}
      (given : pump.supply.Gives r chunks s) (begun : Begun pump.supply s point calls r') :
      Course pump r point (chunks.flatMap copied ++ calls) r'
  | closingSink {chunks : List Bytes} {s r' r'' : ρ} {raised : Option SinkFault}
      {calls : List Call} (given : pump.supply.Gives r chunks s)
      (begun : Begun pump.supply s (.closingSource raised) calls r') :
      Course pump r (.closingSink raised)
        (chunks.flatMap copied ++ calls ++ pump.sourceClosings) r''
  | done {chunks : List Bytes} {s r' r'' : ρ} {raised : Option SinkFault}
      {calls : List Call} (given : pump.supply.Gives r chunks s)
      (begun : Begun pump.supply s (.closingSource raised) calls r') (fault : Option SinkFault)
      (closed : fault ≠ none → pump.closesSink = true) :
      Course pump r (.done ((fault.bind SinkFault.passedOn?).or raised))
        (chunks.flatMap copied ++ calls ++ pump.sourceClosings ++ pump.sinkClosings fault) r''

/-- What a pump has done that was started at a stream in a state. -/
def Follows (pump : Pump ρ σ) (r : ρ) (p : Progress ρ σ) : Prop :=
  Course pump r p.point p.calls p.source

theorem follows_start (pump : Pump ρ σ) (r : ρ) (sink : σ) : Follows pump r (start r sink) :=
  .copying (.nil r) .reading

theorem follows_read (given : pump.supply.Gives r chunks p.source)
    (hcalls : p.calls = chunks.flatMap copied) (h : pump.read? p = some q) : Follows pump r q := by
  obtain ⟨⟨chunk, source⟩, hread, rfl⟩ := Option.map_eq_some_iff.1 h
  have hsplit : p.calls ++ [.read chunk] = chunks.flatMap copied ++ [.read chunk] := by rw [hcalls]
  simp only [Follows, hsplit]
  cases chunk with
  | nil => exact .copying given (.ended hread)
  | cons b bs => exact .copying given (.writing hread (by simp))

theorem follows_write (given : pump.supply.Gives r chunks s)
    (read : pump.supply.read? chunkSize s = some (chunk, p.source)) (full : chunk ≠ [])
    (hcalls : p.calls = chunks.flatMap copied ++ [.read chunk]) :
    Follows pump r (pump.write chunk p) := by
  simp only [Follows, write, hcalls, List.append_assoc, List.cons_append, List.nil_append]
  cases (pump.drain.write chunk p.sink).1 with
  | none => exact .copying given (.flushing read full)
  | some fault => exact .copying given (.unwritten read full fault)

theorem follows_flush (given : pump.supply.Gives r chunks s)
    (read : pump.supply.read? chunkSize s = some (chunk, p.source)) (full : chunk ≠ [])
    (hcalls : p.calls = chunks.flatMap copied ++ [.read chunk, .write chunk none]) :
    Follows pump r (pump.flush p) := by
  simp only [Follows, flush, hcalls, List.append_assoc, List.cons_append, List.nil_append]
  cases (pump.drain.flush p.sink).1 with
  | none =>
    have hround : chunks.flatMap copied ++ copied chunk =
        (chunks ++ [chunk]).flatMap copied ++ [] := by simp
    have hcourse : Course pump r .reading _ p.source :=
      .copying (given.append (.cons read full (.nil _))) .reading
    rw [← hround] at hcourse
    exact hcourse
  | some fault => exact .copying given (.unflushed read full fault)

theorem follows_closeSource (given : pump.supply.Gives r chunks s)
    (begun : Begun pump.supply s (.closingSource raised) calls r')
    (hcalls : p.calls = chunks.flatMap copied ++ calls) :
    Follows pump r (pump.closeSource raised p) := by
  have hcourse (r'' : ρ) : Course pump r (.closingSink raised)
      (p.calls ++ pump.sourceClosings) r'' := by
    rw [hcalls]
    exact .closingSink given begun
  unfold closeSource sourceClosings at *
  split
  · next h =>
    simp only [h, ↓reduceIte] at hcourse
    exact hcourse _
  · next h =>
    simp only [h, Bool.false_eq_true, ↓reduceIte, List.append_nil] at hcourse
    exact hcourse _

theorem follows_closeSink (given : pump.supply.Gives r chunks s)
    (begun : Begun pump.supply s (.closingSource raised) calls r')
    (hcalls : p.calls = chunks.flatMap copied ++ calls ++ pump.sourceClosings) :
    Follows pump r (pump.closeSink raised p) := by
  have hcourse (fault : Option SinkFault) (h : fault ≠ none → pump.closesSink = true) (r'' : ρ) :
      Course pump r (.done ((fault.bind SinkFault.passedOn?).or raised))
        (p.calls ++ pump.sinkClosings fault) r'' := by
    rw [hcalls]
    exact .done given begun fault h
  unfold closeSink sinkClosings at *
  split
  · next h =>
    simp only [h, ↓reduceIte] at hcourse
    exact hcourse _ (fun _ => trivial) _
  · next h =>
    have hnone := hcourse none (fun hne => absurd rfl hne)
    simp only [h, Bool.false_eq_true, ↓reduceIte, List.append_nil] at hnone
    exact hnone _

theorem follows_step (h : Follows pump r p) (hs : pump.step? p = some q) : Follows pump r q := by
  obtain ⟨point, source, sink, calls⟩ := p
  -- the point at which the pump stands says what it does next
  cases h with
  | copying given begun =>
    cases begun with
    | reading => exact follows_read given (List.append_nil _) hs
    | writing read full =>
      cases hs
      exact follows_write given read full rfl
    | flushing read full =>
      cases hs
      exact follows_flush given read full rfl
    | ended read =>
      cases hs
      exact follows_closeSource given (.ended read) rfl
    | unwritten read full fault =>
      cases hs
      exact follows_closeSource given (.unwritten read full fault) rfl
    | unflushed read full fault =>
      cases hs
      exact follows_closeSource given (.unflushed read full fault) rfl
  | closingSink given begun =>
    cases hs
    exact follows_closeSink given begun rfl
  | done given begun fault closed => cases hs

theorem follows_run {n : Nat} (h : Follows pump r p) (hs : pump.run? n p = some q) :
    Follows pump r q := by
  induction n generalizing p with
  | zero =>
    cases hs
    exact h
  | succ n ih =>
    obtain ⟨p', hstep, hrun⟩ := Option.bind_eq_some_iff.1 hs
    exact ih (follows_step h hstep) hrun

/-! ### What the calls come to -/

/-- Behind a call that failed there is only closing. -/
def Silent (calls : List Call) : Prop :=
  calls.Pairwise fun call later => call.fault ≠ none → later.closes = true

theorem Silent.append {before after : List Call} (h : Silent before) (h' : Silent after)
    (hcross : (∀ call ∈ before, call.fault = none) ∨ ∀ call ∈ after, call.closes = true) :
    Silent (before ++ after) := by
  refine List.pairwise_append.2 ⟨h, h', fun call hcall later hlater hfault => ?_⟩
  rcases hcross with hbefore | hafter
  · exact absurd (hbefore call hcall) hfault
  · exact hafter later hlater

theorem silent_of_closes (h : ∀ call ∈ calls, call.closes = true) : Silent calls := by
  induction calls with
  | nil => exact .nil
  | cons call calls ih =>
    obtain ⟨-, hcalls⟩ := List.forall_mem_cons.1 h
    exact .cons (fun later hlater _ => hcalls later hlater) (ih hcalls)

theorem fault_of_copied (h : call ∈ chunks.flatMap copied) : call.fault = none := by
  obtain ⟨chunk, -, hcall⟩ := List.mem_flatMap.1 h
  simp only [copied, List.mem_cons, List.not_mem_nil, or_false] at hcall
  obtain rfl | rfl | rfl := hcall <;> rfl

theorem closes_of_copied (h : call ∈ chunks.flatMap copied) : call.closes = false := by
  obtain ⟨chunk, -, hcall⟩ := List.mem_flatMap.1 h
  simp only [copied, List.mem_cons, List.not_mem_nil, or_false] at hcall
  obtain rfl | rfl | rfl := hcall <;> rfl

theorem silent_of_copied (chunks : List Bytes) : Silent (chunks.flatMap copied) := by
  induction chunks with
  | nil => exact .nil
  | cons chunk chunks ih =>
    have hchunk : Silent (copied chunk) := by simp [Silent, copied, Call.fault]
    have hfault (call : Call) (h : call ∈ copied chunk) : call.fault = none := by
      have hmem : call ∈ [chunk].flatMap copied := by simpa using h
      exact fault_of_copied hmem
    exact hchunk.append ih (.inl hfault)

theorem eq_of_sourceClosings (h : call ∈ pump.sourceClosings) : call = .closeSource := by
  unfold sourceClosings at h
  split at h
  · exact List.mem_singleton.1 h
  · cases h

theorem eq_of_sinkClosings (h : call ∈ pump.sinkClosings fault) : call = .closeSink fault := by
  unfold sinkClosings at h
  split at h
  · exact List.mem_singleton.1 h
  · cases h

theorem eq_of_closings (h : call ∈ pump.sourceClosings ++ pump.sinkClosings fault) :
    call = .closeSource ∨ call = .closeSink fault :=
  (List.mem_append.1 h).imp eq_of_sourceClosings eq_of_sinkClosings

theorem closes_of_closings (h : call ∈ pump.sourceClosings ++ pump.sinkClosings fault) :
    call.closes = true := by
  obtain rfl | rfl := eq_of_closings h <;> rfl

namespace Begun
variable {supply : Supply ρ}

theorem closes (h : Begun supply r point calls r') (hcall : call ∈ calls) :
    call.closes = false := by
  cases h with
  | reading => cases hcall
  | writing | ended =>
    rw [List.mem_singleton.1 hcall]
    rfl
  | flushing | unwritten | unflushed =>
    simp only [List.mem_cons, List.not_mem_nil, or_false] at hcall
    obtain rfl | rfl | rfl := hcall <;> rfl

theorem silent (h : Begun supply r point calls r') : Silent calls := by
  cases h <;> simp [Silent, Call.fault]

theorem fault_or_closing (h : Begun supply r point calls r') :
    (∀ call ∈ calls, call.fault = none) ∨ ∃ raised, point = .closingSource raised := by
  cases h with
  | reading | writing | flushing => exact .inl (by simp [Call.fault])
  | ended | unwritten | unflushed => exact .inr ⟨_, rfl⟩

theorem front (h : Begun supply r point calls r') (ha : Arrives calls data) :
    ∃ chunks s, supply.Gives r chunks s ∧ data <+: chunks.flatten := by
  have hnothing (hd : data = []) : ∃ chunks s, supply.Gives r chunks s ∧ data <+: chunks.flatten :=
    ⟨[], r, .nil r, by rw [hd]; exact List.nil_prefix⟩
  have hchunk {chunk : Bytes} {s : ρ} (read : supply.read? chunkSize r = some (chunk, s))
      (full : chunk ≠ []) (hd : data <+: chunk) :
      ∃ chunks s, supply.Gives r chunks s ∧ data <+: chunks.flatten :=
    ⟨[chunk], s, .cons read full (.nil s), by simpa using hd⟩
  cases h with
  | reading => exact hnothing (arrives_nil.1 ha)
  | writing | ended =>
    simp only [arrives_cons, arrives_nil, Call.Brings] at ha
    obtain ⟨_, _, rfl, rfl, rfl⟩ := ha
    exact hnothing rfl
  | flushing read full =>
    simp only [arrives_cons, arrives_nil, Call.Brings] at ha
    obtain ⟨_, _, rfl, ⟨_, _, rfl, rfl, rfl⟩, rfl⟩ := ha
    exact hchunk read full (by simp)
  | unwritten read full fault =>
    simp only [arrives_cons, arrives_nil, Call.Brings] at ha
    obtain ⟨_, _, rfl, ⟨part, _, hpart, rfl, rfl⟩, rfl⟩ := ha
    exact hchunk read full (by simpa using hpart)
  | unflushed read full fault =>
    simp only [arrives_cons, arrives_nil, Call.Brings] at ha
    obtain ⟨_, _, rfl, ⟨_, _, rfl, ⟨_, _, rfl, rfl, rfl⟩, rfl⟩, rfl⟩ := ha
    exact hchunk read full (by simp)

/-- Where nothing has failed and the pump is closing, it has come to the end of the stream. -/
theorem ended_of_closing (h : Begun supply r (.closingSource raised) calls r')
    (hcalls : ∀ call ∈ calls, call.fault = none) :
    calls = [.read []] ∧ supply.read? chunkSize r = some ([], r') := by
  cases h with
  | ended read => exact ⟨rfl, read⟩
  | unwritten read full fault => simp [Call.fault] at hcalls
  | unflushed read full fault => simp [Call.fault] at hcalls

theorem raises (h : Begun supply r (.closingSource raised) calls r')
    {fault : SinkFault} (hraised : raised = some fault) :
    fault ≠ .broken ∧ ∃ call ∈ calls, call.fault = some fault := by
  cases h with
  | ended read => cases hraised
  | @unwritten chunk _ read full cause =>
    obtain ⟨rfl, hne⟩ := passedOn?_eq_some.1 hraised
    exact ⟨hne, .write chunk (some cause), by simp, rfl⟩
  | unflushed read full cause =>
    obtain ⟨rfl, hne⟩ := passedOn?_eq_some.1 hraised
    exact ⟨hne, .flush (some cause), by simp, rfl⟩

theorem breaks (h : Begun supply r (.closingSource raised) calls r') (hraised : raised = none)
    (hcall : call ∈ calls) {fault : SinkFault} (hfault : call.fault = some fault) :
    fault = .broken := by
  cases h with
  | ended read =>
    rw [List.mem_singleton.1 hcall] at hfault
    cases hfault
  | unwritten read full cause | unflushed read full cause =>
    obtain rfl := passedOn?_eq_none.1 hraised
    simp only [List.mem_cons, List.not_mem_nil, or_false] at hcall
    obtain rfl | rfl | rfl := hcall <;> cases hfault
    rfl

end Begun

theorem Course.split (h : Course pump r point calls r') :
    ∃ chunks s at' begun s' closings, pump.supply.Gives r chunks s ∧
      Begun pump.supply s at' begun s' ∧ calls = chunks.flatMap copied ++ begun ++ closings ∧
      ∀ call ∈ closings, call.closes = true := by
  cases h with
  | copying given begun => exact ⟨_, _, _, _, _, [], given, begun, by simp, by simp⟩
  | closingSink given begun =>
    refine ⟨_, _, _, _, _, _, given, begun, rfl, fun call hcall => ?_⟩
    rw [eq_of_sourceClosings hcall]
    rfl
  | done given begun fault closed =>
    exact ⟨_, _, _, _, _, _, given, begun, List.append_assoc .., fun _ => closes_of_closings⟩

theorem Course.front (h : Course pump r point calls r') (ha : Arrives calls data) :
    ∃ chunks s, pump.supply.Gives r chunks s ∧ data <+: chunks.flatten := by
  obtain ⟨chunks, s, at', begun, s', closings, hgives, hbegun, rfl, hclosings⟩ := h.split
  obtain ⟨_, _, hcopying, hclosing, rfl⟩ := arrives_append.1 ha
  obtain ⟨_, part, hcopied, hpart, rfl⟩ := arrives_append.1 hcopying
  obtain ⟨more, t, hmore, hfront⟩ := hbegun.front hpart
  rw [(arrives_of_closes hclosings).1 hclosing, arrives_copied.1 hcopied, List.append_nil]
  refine ⟨chunks ++ more, t, hgives.append hmore, ?_⟩
  rw [List.flatten_append, List.prefix_append_right_inj]
  exact hfront

theorem Course.silent (h : Course pump r point calls r') : Silent calls := by
  obtain ⟨chunks, s, at', begun, s', closings, -, hbegun, rfl, hclosings⟩ := h.split
  have hcopying : Silent (chunks.flatMap copied ++ begun) :=
    (silent_of_copied chunks).append hbegun.silent (.inl fun _ => fault_of_copied)
  exact hcopying.append (silent_of_closes hclosings) (.inr hclosings)

end Pump
end PipelineShell
