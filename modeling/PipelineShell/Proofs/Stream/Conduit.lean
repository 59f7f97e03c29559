import PipelineShell.Proofs.Stream.Exchange
import PipelineShell.Stream.Conduit

/-!
# Pipes between turns

What each turn keeps at a pipe: what has come out, what is in it and what is still to come. A pump
waits only for room or for bytes, and then the program at the other end does not wait.
-/

namespace PipelineShell

/-! ### Pipes -/

namespace Conduit

variable {p q : Conduit} {data : Bytes} {size amount : Nat}

@[simp] theorem content_closeWriting (p : Conduit) : p.closeWriting.content = p.content := rfl

@[simp] theorem writable_closeWriting (p : Conduit) : p.closeWriting.writable = false := rfl

@[simp] theorem content_closeReading (p : Conduit) : p.closeReading.content = p.content := rfl

@[simp] theorem readable_closeReading (p : Conduit) : p.closeReading.readable = false := rfl

theorem room_ne_zero (p : Conduit) (h : p.content = []) : p.room ≠ 0 := by
  have hpositive := p.capacity.2
  simp only [room, h, List.length_nil]
  omega

theorem read?_eq_none_iff :
    p.read? size amount = none ↔ size ≠ 0 ∧ p.content = [] ∧ p.writable = true := by
  unfold read?
  by_cases hsize : size = 0 <;> by_cases hcontent : p.content = [] <;> simp [hsize, hcontent]

theorem read?_some (h : p.read? size amount = some (data, q)) :
    data ++ q.content = p.content ∧ q.writable = p.writable ∧ q.readable = p.readable := by
  unfold read? at h
  split at h
  · cases h
    exact ⟨rfl, rfl, rfl⟩
  · split at h
    · split at h
      · cases h
      · cases h
        exact ⟨rfl, rfl, rfl⟩
    · cases h
      exact ⟨List.take_append_drop _ _, rfl, rfl⟩

theorem ended_of_read? (hsize : size ≠ 0) (h : p.read? size amount = some ([], q)) :
    q.content = [] ∧ q.writable = false := by
  unfold read? at h
  rw [if_neg hsize] at h
  split at h
  · next hcontent =>
    split at h
    · cases h
    · next hwritable =>
      cases h
      exact ⟨hcontent, Bool.not_eq_true _ ▸ hwritable⟩
  · next hcontent =>
    -- at least one byte is taken
    rw [Option.some.injEq, Prod.mk.injEq, List.take_eq_nil_iff] at h
    have hshare : min (max amount 1) size ≠ 0 := by omega
    exact absurd h.1 (by simp [hshare, hcontent])

theorem write?_eq_none_iff : p.write? data amount = none ↔ data ≠ [] ∧ p.room = 0 := by
  unfold write?
  by_cases hdata : data = [] <;> by_cases hroom : p.room = 0 <;> simp [hdata, hroom]

theorem write?_some {part : Bytes} (h : p.write? data amount = some (part, q)) :
    part ++ data.drop part.length = data ∧ (part = [] → data = []) ∧
      q.content = p.content ++ part ∧ q.writable = p.writable ∧ q.readable = p.readable := by
  unfold write? at h
  split at h
  · next hdata =>
    cases h
    exact ⟨by simp, fun _ => hdata, by simp, rfl, rfl⟩
  · next hdata =>
    split at h
    · cases h
    · next hroom =>
      cases h
      have hshare : min (max amount 1) p.room ≠ 0 := by omega
      have hfront : data.take (min (max amount 1) p.room) <+: data := List.take_prefix _ data
      -- there is room for the whole part
      have hpart : (data.take (min (max amount 1) p.room)).take p.room =
          data.take (min (max amount 1) p.room) := by
        rw [List.take_take]
        congr 1
        omega
      refine ⟨List.prefix_iff_eq_append.1 hfront, fun hnil => ?_, ?_, rfl, rfl⟩
      · exact (List.take_eq_nil_iff.1 hnil).resolve_left hshare
      · simp only [add, hpart]

theorem capacity_write? {part : Bytes} (h : p.write? data amount = some (part, q)) :
    q.capacity = p.capacity := by
  unfold write? at h
  split at h
  · cases h
    rfl
  · split at h
    · cases h
    · cases h
      rfl

/-- All is written at once into an empty pipe in which there is room for it. -/
theorem write?_whole (hcontent : p.content = []) (hroom : data.length ≤ p.capacity.1) :
    ∃ q, p.write? data data.length = some (data, q) ∧ q.content = data ∧ q.writable = p.writable ∧
      q.readable = p.readable := by
  have hwrite : ∃ q, p.write? data data.length = some (data, q) := by
    cases data with
    | nil => exact ⟨p, rfl⟩
    | cons b rest =>
      have hfree : p.room = p.capacity.1 := by simp [room, hcontent]
      have hshare : min (max (b :: rest).length 1) p.room = (b :: rest).length := by
        simp only [List.length_cons] at hroom ⊢
        omega
      simp only [write?, hshare, List.take_length]
      exact ⟨p.add (b :: rest), by simp [p.room_ne_zero hcontent]⟩
  obtain ⟨q, hq⟩ := hwrite
  obtain ⟨-, -, hall, hwritable, hreadable⟩ := write?_some hq
  rw [hcontent, List.nil_append] at hall
  exact ⟨q, hq, hall, hwritable, hreadable⟩

theorem isEnd_iff : isEnd size data = true ↔ size ≠ 0 ∧ data = [] := by
  simp [isEnd]

theorem readable_of_writable (h : p.readable = false → p.writable = false)
    (hwritable : p.writable = true) : p.readable = true := by
  cases hreadable : p.readable with
  | true => rfl
  | false =>
    rw [h hreadable] at hwritable
    cases hwritable

end Conduit

/-! ### Phases -/

namespace Phase

variable {rest chunk : Bytes}

@[simp] theorem held_onRead (chunk : Bytes) : (onRead chunk).held = chunk := by
  unfold onRead
  split
  · next h => simp [held, h]
  · rfl

/-- The pump will read no more. -/
def Over (phase : Phase) : Prop := phase = .closing ∨ phase = .finished

theorem over_onRead : (onRead chunk).Over ↔ chunk = [] := by
  unfold onRead Over
  split <;> simp_all

theorem onRead_ne_finished : onRead chunk ≠ .finished := by
  unfold onRead
  split <;> simp

theorem onWrite_ne_finished : onWrite rest ≠ .finished := by
  unfold onWrite
  split <;> simp

/-- How many turns a pump may still take at most, by what is left to be read. -/
def work (left : Nat) : Phase → Nat
  | .reading => 3 * left + 2
  | .holding rest => rest.length + 3 * left + 3
  | .closing => 1
  | .finished => 0

theorem work_onRead (chunk : Bytes) (left : Nat) :
    (onRead chunk).work left < reading.work (chunk.length + left) := by
  unfold onRead
  split
  · simp only [work]
    omega
  · next h =>
    have hpositive : 0 < chunk.length := List.length_pos_iff.2 h
    simp only [work]
    omega

theorem work_onWrite {part : Bytes} (left : Nat) (h : part = [] → rest = []) :
    (onWrite (rest.drop part.length)).work left < (holding rest).work left := by
  unfold onWrite
  split
  · simp only [work]
    omega
  · next hrest =>
    have hne : rest ≠ [] := by
      rintro rfl
      exact hrest (List.drop_nil)
    have hpart : 0 < part.length := List.length_pos_iff.2 (mt h hne)
    have hlength : 0 < rest.length := List.length_pos_iff.2 hne
    simp only [work, List.length_drop]
    omega

end Phase

/-! ### The input -/

namespace Intake

variable {data : Bytes} {i j : Intake} {size amount : Nat}

/-- What the pump will still write, unless the program closes its end. -/
def coming (i : Intake) : Bytes :=
  match i.phase with
  | .reading => i.source.content
  | .holding rest => rest ++ i.source.content
  | _ => []

/-- What the program has read, what stands in the pipe and what is still to come is the stream, and
the pipe is open for writing until the pump has finished. -/
structure Carries (data : Bytes) (i : Intake) : Prop where
  closed : i.source.closed = true
  taken : i.taken <+: data
  conserved : i.pipe.readable = true → i.taken ++ (i.pipe.content ++ i.coming) = data
  finished_iff : i.phase = .finished ↔ i.pipe.writable = false

def work (i : Intake) : Nat := i.phase.work i.source.content.length

theorem pump?_cases (h : i.pump? amount = some j) :
    (∃ chunk source, i.phase = .reading ∧
      i.source.readSome? (some Pump.chunkSize) = some (chunk, source) ∧
      j = { i with source, phase := .onRead chunk }) ∨
      (∃ rest part pipe, i.phase = .holding rest ∧ i.pipe.readable = true ∧
        i.pipe.write? rest amount = some (part, pipe) ∧
        j = { i with pipe, phase := .onWrite (rest.drop part.length) }) ∨
      (∃ rest, i.phase = .holding rest ∧ i.pipe.readable = false ∧
        j = { i with phase := .closing }) ∨
      i.phase = .closing ∧ j = { i with pipe := i.pipe.closeWriting, phase := .finished } := by
  unfold pump? at h
  split at h
  · next hphase =>
    obtain ⟨⟨chunk, source⟩, hread, rfl⟩ := Option.map_eq_some_iff.1 h
    exact .inl ⟨chunk, source, hphase, hread, rfl⟩
  · next rest hphase =>
    split at h
    · next hreadable =>
      obtain ⟨⟨part, pipe⟩, hwrite, rfl⟩ := Option.map_eq_some_iff.1 h
      exact .inr (.inl ⟨rest, part, pipe, hphase, hreadable, hwrite, rfl⟩)
    · next hreadable =>
      cases h
      exact .inr (.inr (.inl ⟨rest, hphase, Bool.not_eq_true _ ▸ hreadable, rfl⟩))
  · next hphase =>
    cases h
    exact .inr (.inr (.inr ⟨hphase, rfl⟩))
  · cases h

theorem kept_of_pump? (h : i.pump? amount = some j) :
    j.taken = i.taken ∧ j.pipe.capacity = i.pipe.capacity := by
  rcases pump?_cases h with ⟨_, _, _, _, rfl⟩ | ⟨_, _, _, _, _, hwrite, rfl⟩ | ⟨_, _, _, rfl⟩ |
    ⟨_, rfl⟩
  · exact ⟨rfl, rfl⟩
  · exact ⟨rfl, Conduit.capacity_write? hwrite⟩
  · exact ⟨rfl, rfl⟩
  · exact ⟨rfl, rfl⟩

theorem coming_onRead {chunk : Bytes} {source : Channel} (i : Intake)
    (h : chunk = [] → source.content = []) :
    coming { i with source, phase := .onRead chunk } = chunk ++ source.content := by
  by_cases hchunk : chunk = []
  · simp [coming, Phase.onRead, hchunk, h]
  · simp [coming, Phase.onRead, hchunk]

theorem coming_onWrite (i : Intake) (pipe : Conduit) (rest : Bytes) :
    coming { i with pipe, phase := .onWrite rest } = rest ++ i.source.content := by
  by_cases hrest : rest = []
  · simp [coming, Phase.onWrite, hrest]
  · simp [coming, Phase.onWrite, hrest]

theorem Carries.pump (hi : i.Carries data) (h : i.pump? amount = some j) :
    j.Carries data ∧ j.pipe.readable = i.pipe.readable ∧ j.work < i.work := by
  obtain ⟨hclosed, htaken, hconserved, hfinished⟩ := hi
  rcases pump?_cases h with ⟨chunk, source, hphase, hread, rfl⟩ |
    ⟨rest, part, pipe, hphase, -, hwrite, rfl⟩ | ⟨rest, hphase, hreadable, rfl⟩ | ⟨hphase, rfl⟩
  · have hreads := Channel.reads_of_readSome? hread
    have hatEnd : chunk = [] → source.content = [] := by
      intro hchunk
      have hall := hreads.atEnd (by decide) hchunk
      rw [← hreads.taken] at hall
      exact (List.append_eq_nil_iff.1 hall).2
    have hcoming : coming { i with source, phase := .onRead chunk } = i.coming := by
      rw [coming_onRead i hatEnd, hreads.taken]
      simp only [coming, hphase]
    refine ⟨⟨hreads.closed.trans hclosed, htaken, fun hreadable => ?_, ?_⟩, rfl, ?_⟩
    · rw [hcoming]
      exact hconserved hreadable
    · rw [← hfinished, hphase]
      simp [Phase.onRead_ne_finished]
    · have hlower := Phase.work_onRead chunk source.content.length
      rw [← List.length_append, hreads.taken] at hlower
      simpa only [work, hphase] using hlower
  · obtain ⟨hsplit, hpart, hcontent, hwritable, hends⟩ := Conduit.write?_some hwrite
    have hcoming : i.coming = part ++ (rest.drop part.length ++ i.source.content) := by
      rw [← List.append_assoc, hsplit]
      simp only [coming, hphase]
    refine ⟨⟨hclosed, htaken, fun hreadable => ?_, ?_⟩, hends, ?_⟩
    · have hall := hconserved (hends ▸ hreadable)
      rw [hcoming] at hall
      rw [coming_onWrite, hcontent, List.append_assoc i.pipe.content]
      exact hall
    · rw [hwritable, ← hfinished, hphase]
      simp [Phase.onWrite_ne_finished]
    · have hlower := Phase.work_onWrite i.source.content.length hpart
      simpa only [work, hphase] using hlower
  · -- the rest of the chunk is dropped, for nobody is there to read it
    refine ⟨⟨hclosed, htaken, fun h => ?_, ?_⟩, rfl, ?_⟩
    · rw [hreadable] at h
      cases h
    · rw [← hfinished, hphase]
      simp
    · simp only [work, hphase, Phase.work]
      omega
  · refine ⟨⟨hclosed, htaken, fun hreadable => ?_, by simp⟩, rfl, ?_⟩
    · have hall := hconserved hreadable
      simpa [coming, hphase] using hall
    · simp [work, hphase, Phase.work]

theorem Carries.read {answer : Option Bytes} (hi : i.Carries data)
    (h : i.read? size amount = some (answer, j)) : j.Carries data := by
  unfold read? at h
  split at h
  · next hreadable =>
    obtain ⟨⟨part, pipe⟩, hread, hj⟩ := Option.map_eq_some_iff.1 h
    cases hj
    obtain ⟨hsplit, hwritable, -⟩ := Conduit.read?_some hread
    have hall : (i.taken ++ part) ++ (pipe.content ++ i.coming) = data := by
      have hconserved := hi.conserved hreadable
      rw [← hsplit] at hconserved
      simpa only [List.append_assoc] using hconserved
    refine ⟨hi.closed, ⟨_, hall⟩, fun _ => hall, ?_⟩
    rw [hwritable]
    exact hi.finished_iff
  · cases h
    exact hi

theorem Carries.shut (hi : i.Carries data) : i.shut.Carries data where
  closed := hi.closed
  taken := hi.taken
  conserved h := by simp [Intake.shut] at h
  finished_iff := hi.finished_iff

theorem Carries.taken_of_ended (hi : i.Carries data) (hsize : size ≠ 0)
    (h : i.read? size amount = some (some [], j)) : j.taken = data := by
  unfold read? at h
  split at h
  · next hreadable =>
    obtain ⟨⟨part, pipe⟩, hread, hj⟩ := Option.map_eq_some_iff.1 h
    cases hj
    obtain ⟨hcontent, hwritable⟩ := Conduit.ended_of_read? hsize hread
    obtain ⟨hsplit, hsame, -⟩ := Conduit.read?_some hread
    have hphase : i.phase = .finished := hi.finished_iff.2 (hsame ▸ hwritable)
    have hempty : i.pipe.content = [] := by rw [← hsplit, hcontent, List.append_nil]
    have hall := hi.conserved hreadable
    simpa [coming, hphase, hempty] using hall
  · cases h

theorem Carries.of_pump?_eq_none (hi : i.Carries data) (h : i.pump? amount = none) :
    i.phase = .finished ∨ i.pipe.readable = true ∧ i.pipe.room = 0 := by
  unfold pump? at h
  split at h
  · have hready : i.source.ready = true := Channel.ready_of_closed hi.closed
    simp [Channel.readSome?, hready] at h
  · split at h
    · next hreadable =>
      have hfull := Conduit.write?_eq_none_iff.1 (Option.map_eq_none_iff.1 h)
      exact .inr ⟨hreadable, hfull.2⟩
    · cases h
  · cases h
  · next hphase => exact .inl hphase

theorem Carries.pump_of_waiting (hi : i.Carries data) (h : i.read? size amount = none) (k : Nat) :
    (i.pump? k).isSome = true := by
  have hempty : i.pipe.content = [] ∧ i.pipe.writable = true := by
    unfold read? at h
    split at h
    · exact (Conduit.read?_eq_none_iff.1 (Option.map_eq_none_iff.1 h)).2
    · cases h
  refine Option.isSome_iff_ne_none.2 fun hnone => ?_
  rcases hi.of_pump?_eq_none hnone with hphase | ⟨-, hfull⟩
  · have hwritable := hi.finished_iff.1 hphase
    rw [hempty.2] at hwritable
    cases hwritable
  · exact Conduit.room_ne_zero i.pipe hempty.1 hfull

end Intake

/-! ### The outputs -/

namespace Outflow

variable {arrived data : Bytes} {pieces : List Bytes} {f g : Outflow} {amount : Nat}

/-- What has arrived, what the pump holds and what stands in the pipe is what the program has
written, and the pump comes to an end only when there is no more and no more can come. -/
structure Carries (arrived : Bytes) (f : Outflow) : Prop where
  conserved : arrived ++ (f.phase.held ++ f.pipe.content) = f.written
  ended : f.phase.Over → f.pipe.content = [] ∧ f.pipe.writable = false

def work (f : Outflow) : Nat := f.phase.work f.pipe.content.length

theorem pump?_cases (h : f.pump? amount = some (pieces, g)) :
    (∃ chunk pipe, f.phase = .reading ∧
      f.pipe.read? Pump.chunkSize amount = some (chunk, pipe) ∧ pieces = [] ∧
      g = { f with pipe, phase := .onRead chunk }) ∨
      (∃ chunk, f.phase = .holding chunk ∧ pieces = [chunk] ∧ g = { f with phase := .reading }) ∨
      f.phase = .closing ∧ pieces = [] ∧
        g = { f with pipe := f.pipe.closeReading, phase := .finished } := by
  unfold pump? at h
  split at h
  · next hphase =>
    obtain ⟨⟨chunk, pipe⟩, hread, hg⟩ := Option.map_eq_some_iff.1 h
    cases hg
    exact .inl ⟨chunk, pipe, hphase, hread, rfl, rfl⟩
  · next chunk hphase =>
    cases h
    exact .inr (.inl ⟨chunk, hphase, rfl, rfl⟩)
  · next hphase =>
    cases h
    exact .inr (.inr ⟨hphase, rfl, rfl⟩)
  · cases h

theorem Carries.pump (hf : f.Carries arrived) (h : f.pump? amount = some (pieces, g)) :
    g.Carries (arrived ++ pieces.flatten) ∧ g.pipe.writable = f.pipe.writable ∧
      g.work < f.work := by
  obtain ⟨hconserved, hended⟩ := hf
  rcases pump?_cases h with ⟨chunk, pipe, hphase, hread, rfl, rfl⟩ | ⟨chunk, hphase, rfl, rfl⟩ |
    ⟨hphase, rfl, rfl⟩
  · obtain ⟨hsplit, hwritable, -⟩ := Conduit.read?_some hread
    refine ⟨⟨?_, fun hover => ?_⟩, hwritable, ?_⟩
    · rw [Phase.held_onRead, hsplit]
      simpa [Phase.held, hphase] using hconserved
    · have hchunk : chunk = [] := Phase.over_onRead.1 hover
      subst hchunk
      exact Conduit.ended_of_read? (by decide) hread
    · have hlower := Phase.work_onRead chunk pipe.content.length
      rw [← List.length_append, hsplit] at hlower
      simpa only [work, hphase] using hlower
  · refine ⟨⟨?_, fun hover => ?_⟩, rfl, ?_⟩
    · simpa [Phase.held, hphase] using hconserved
    · simp [Phase.Over] at hover
    · simp only [work, hphase, Phase.work]
      omega
  · refine ⟨⟨?_, fun _ => hended (.inl hphase)⟩, rfl, ?_⟩
    · simpa [Phase.held, hphase] using hconserved
    · simp [work, hphase, Phase.work]

theorem Carries.write {answer : Option Nat} (hf : f.Carries arrived)
    (h : f.write? data amount = some (answer, g)) : g.Carries arrived := by
  unfold write? at h
  split at h
  · next hopen =>
    obtain ⟨⟨part, pipe⟩, hwrite, hg⟩ := Option.map_eq_some_iff.1 h
    cases hg
    obtain ⟨-, -, hcontent, -⟩ := Conduit.write?_some hwrite
    refine ⟨?_, fun hover => ?_⟩
    · have hconserved := hf.conserved
      rw [hcontent, ← hconserved]
      simp only [List.append_assoc]
    · have hshut := (hf.ended hover).2
      simp [hshut] at hopen
  · cases h
    exact hf

theorem Carries.shut (hf : f.Carries arrived) : f.shut.Carries arrived :=
  ⟨hf.conserved, fun hover => ⟨(hf.ended hover).1, rfl⟩⟩

theorem Carries.arrived_front (hf : f.Carries arrived) : arrived <+: f.written := ⟨_, hf.conserved⟩

theorem Carries.arrived_of_finished (hf : f.Carries arrived) (h : f.phase = .finished) :
    arrived = f.written := by
  have hempty := (hf.ended (.inr h)).1
  have hconserved := hf.conserved
  simpa [Phase.held, h, hempty] using hconserved

theorem of_pump?_eq_none (h : f.pump? amount = none) :
    f.phase = .finished ∨ f.pipe.content = [] ∧ f.pipe.writable = true := by
  unfold pump? at h
  split at h
  · exact .inr (Conduit.read?_eq_none_iff.1 (Option.map_eq_none_iff.1 h)).2
  · cases h
  · cases h
  · next hphase => exact .inl hphase

theorem Carries.pump_of_waiting (hf : f.Carries arrived) (h : f.write? data amount = none)
    (k : Nat) : (f.pump? k).isSome = true := by
  have hfull : f.pipe.writable = true ∧ f.pipe.room = 0 := by
    unfold write? at h
    split at h
    · next hopen =>
      have hfull := Conduit.write?_eq_none_iff.1 (Option.map_eq_none_iff.1 h)
      exact ⟨(Bool.and_eq_true_iff.1 hopen).1, hfull.2⟩
    · cases h
  refine Option.isSome_iff_ne_none.2 fun hnone => ?_
  rcases of_pump?_eq_none hnone with hphase | ⟨hempty, -⟩
  · have hshut := (hf.ended (.inr hphase)).2
    rw [hfull.1] at hshut
    cases hshut
  · exact Conduit.room_ne_zero f.pipe hempty hfull.2

end Outflow

end PipelineShell
