import PipelineShell.Proofs.Stream.Conduit

/-!
# Pipes between two programs

What stands in a pipe is what has been written and not yet read, and a program reads the end of it
only when the writer has closed it.
-/

namespace PipelineShell

namespace Outflow

variable {f g : Outflow} {data : Bytes} {size amount : Nat}

theorem read?_some {answer : Option Bytes} (hopen : f.pipe.readable = true)
    (h : f.read? size amount = some (answer, g)) :
    ∃ data, answer = some data ∧ data ++ g.pipe.content = f.pipe.content ∧
      g.written = f.written ∧ g.pipe.writable = f.pipe.writable ∧ g.pipe.readable = true ∧
      (size ≠ 0 → data = [] → g.pipe.content = [] ∧ g.pipe.writable = false) := by
  rw [read?, if_pos hopen] at h
  obtain ⟨⟨data, pipe⟩, hread, heq⟩ := Option.map_eq_some_iff.1 h
  cases heq
  obtain ⟨hsplit, hwritable, hreadable⟩ := Conduit.read?_some hread
  refine ⟨data, rfl, hsplit, rfl, hwritable, hreadable.trans hopen, fun hsize hdata => ?_⟩
  subst hdata
  exact Conduit.ended_of_read? hsize hread

theorem write?_some {answer : Option Nat} (hwritable : f.pipe.writable = true)
    (hreadable : f.pipe.readable = true) (h : f.write? data amount = some (answer, g)) :
    ∃ count ≤ data.length, answer = some count ∧ g.written = f.written ++ data.take count ∧
      g.pipe.content = f.pipe.content ++ data.take count ∧ g.pipe.writable = true ∧
      g.pipe.readable = true := by
  rw [write?, hwritable, hreadable] at h
  obtain ⟨⟨part, pipe⟩, hwrite, heq⟩ := Option.map_eq_some_iff.1 h
  cases heq
  obtain ⟨hsplit, -, hcontent, hw, hr⟩ := Conduit.write?_some hwrite
  have hpart : data.take part.length = part := by
    rw [← hsplit, List.take_left]
  have hlength : part.length ≤ data.length := by
    rw [← hsplit, List.length_append]
    omega
  refine ⟨part.length, hlength, rfl, ?_, ?_, hw.trans hwritable, hr.trans hreadable⟩
  · rw [hpart]
  · rw [hpart, hcontent]

/-- Where a pipe stands between two programs: what has been read and what stands in it is what has
been written, and the end is read only when the writer has closed it. -/
structure Joins (f : Outflow) (taken : Bytes) (ended left : Bool) : Prop where
  conserved : taken ++ f.pipe.content = f.written
  atEnd : ended = true → f.pipe.content = [] ∧ f.pipe.writable = false
  readable : f.pipe.readable = false → left = true

variable {taken : Bytes} {ended left : Bool}

theorem Joins.read (h : f.Joins taken ended false)
    {answer : Option Bytes} (hread : f.read? size amount = some (answer, g)) :
    ∃ data, answer = some data ∧ (ended = true → data = []) ∧ g.written = f.written ∧
      g.pipe.writable = f.pipe.writable ∧
      g.Joins (taken ++ data) (ended || Conduit.isEnd size data) false := by
  have hopen : f.pipe.readable = true := by
    cases hreadable : f.pipe.readable with
    | true => rfl
    | false => cases h.readable hreadable
  obtain ⟨data, rfl, hsplit, hwritten, hwritable, hreadable, hend⟩ := read?_some hopen hread
  refine ⟨data, rfl, fun hended => ?_, hwritten, hwritable, ?_, fun hended => ?_, fun hclosed => ?_⟩
  · rw [(h.atEnd hended).1] at hsplit
    exact (List.append_eq_nil_iff.1 hsplit).1
  · rw [List.append_assoc, hsplit, h.conserved, hwritten]
  · rcases Bool.or_eq_true_iff.1 hended with hbefore | hnow
    · obtain ⟨hcontent, hshut⟩ := h.atEnd hbefore
      rw [hcontent] at hsplit
      exact ⟨(List.append_eq_nil_iff.1 hsplit).2, hwritable.trans hshut⟩
    · obtain ⟨hsize, hdata⟩ := Conduit.isEnd_iff.1 hnow
      exact hend hsize hdata
  · rw [hreadable] at hclosed
    cases hclosed

theorem Joins.write (h : f.Joins taken ended left) (hwritable : f.pipe.writable = true)
    (hreadable : f.pipe.readable = true) {answer : Option Nat}
    (hwrite : f.write? data amount = some (answer, g)) : g.Joins taken ended left := by
  obtain ⟨count, -, -, hwritten, hcontent, hw, hr⟩ := write?_some hwritable hreadable hwrite
  refine ⟨?_, fun hended => ?_, fun hclosed => ?_⟩
  · rw [hcontent, hwritten, ← List.append_assoc, h.conserved]
  · have hshut := (h.atEnd hended).2
    rw [hwritable] at hshut
    cases hshut
  · rw [hr] at hclosed
    cases hclosed

theorem Joins.shut (h : f.Joins taken ended left) : f.shut.Joins taken ended left :=
  ⟨h.conserved, fun hended => ⟨(h.atEnd hended).1, rfl⟩, h.readable⟩

theorem Joins.leave (h : f.Joins taken ended left) : f.leave.Joins taken ended true :=
  ⟨h.conserved, h.atEnd, fun _ => rfl⟩

end Outflow

namespace Intake

variable {i j : Intake} {input taken : Bytes} {ended left : Bool} {size amount : Nat}

/-- Where the pipe to the first program stands, as `Outflow.Joins`. -/
structure Feeds (i : Intake) (input taken : Bytes) (ended left : Bool) : Prop where
  carries : i.Carries input
  taken_eq : i.taken = taken
  atEnd : ended = true → taken = input
  readable : i.pipe.readable = false → left = true

theorem Feeds.read (h : i.Feeds input taken ended false)
    {answer : Option Bytes} (hread : i.read? size amount = some (answer, j)) :
    ∃ data, answer = some data ∧ (ended = true → data = []) ∧
      j.Feeds input (taken ++ data) (ended || Conduit.isEnd size data) false := by
  have hopen : i.pipe.readable = true := by
    cases hreadable : i.pipe.readable with
    | true => rfl
    | false => cases h.readable hreadable
  have hcarries := h.carries.read hread
  have hall (hsize : size ≠ 0) (hend : answer = some []) : j.taken = input :=
    h.carries.taken_of_ended hsize (hend ▸ hread)
  rw [read?, if_pos hopen] at hread
  obtain ⟨⟨data, pipe⟩, hconduit, heq⟩ := Option.map_eq_some_iff.1 hread
  cases heq
  obtain ⟨-, -, hreadable⟩ := Conduit.read?_some hconduit
  have htaken : i.taken ++ data = taken ++ data := by rw [h.taken_eq]
  have hover (hended : ended = true) : data = [] := by
    have hprefix := hcarries.taken
    dsimp only at hprefix
    rw [htaken, h.atEnd hended] at hprefix
    have hlength := hprefix.length_le
    rw [List.length_append] at hlength
    exact List.length_eq_zero_iff.1 (by omega)
  refine ⟨data, rfl, hover, hcarries, htaken, fun hended => ?_, fun hclosed => ?_⟩
  · rcases Bool.or_eq_true_iff.1 hended with hbefore | hnow
    · rw [hover hbefore, List.append_nil, h.atEnd hbefore]
    · obtain ⟨hsize, hdata⟩ := Conduit.isEnd_iff.1 hnow
      rw [← htaken]
      exact hall hsize (by rw [hdata])
  · rw [hreadable, hopen] at hclosed
    cases hclosed

theorem Feeds.pump (h : i.Feeds input taken ended left) (hpump : i.pump? amount = some j) :
    j.Feeds input taken ended left := by
  obtain ⟨hcarries, hreadable, -⟩ := h.carries.pump hpump
  refine ⟨hcarries, ?_, h.atEnd, fun hclosed => h.readable (hreadable ▸ hclosed)⟩
  rw [← h.taken_eq]
  rcases pump?_cases hpump with ⟨_, _, _, _, rfl⟩ | ⟨_, _, _, _, _, _, rfl⟩ | ⟨_, _, _, rfl⟩ |
    ⟨_, rfl⟩ <;> rfl

theorem Feeds.shut (h : i.Feeds input taken ended left) : i.shut.Feeds input taken ended true :=
  ⟨h.carries.shut, h.taken_eq, h.atEnd, fun _ => rfl⟩

end Intake

end PipelineShell
