import PipelineShell.Proofs.Execution.Memory

/-!
# Behaviours that write a line

The `write` of the builtins either writes its line or raises the error of the encoding or the
outlet.
-/

namespace PipelineShell

/-- A line that can be written to an outlet. -/
structure Outlet.Tells (sink : Outlet) (line : Text) : Prop where
  whole : line.IsWhole
  accepts : sink.accepts = true

instance (sink : Outlet) (line : Text) : Decidable (sink.Tells line) :=
  decidable_of_iff (line.IsWhole ∧ sink.accepts = true) ⟨fun h => ⟨h.1, h.2⟩, fun h => ⟨h.1, h.2⟩⟩

/-- What a builtin fails with that cannot write a line. -/
inductive Untold : Failure → Prop
  | unencodable (e : Utf8.Unencodable) : Untold (.unencodable e)
  | noSpace : Untold (.unwritable .noSpace)

theorem Outlet.write_of_not_accepts {sink : Outlet} (hopen : sink.isOpen = true)
    (h : ¬sink.accepts = true) {data : Bytes} (hdata : data ≠ []) (s : State) :
    ∃ sink', sink.write data s = .error (.unwritable .noSpace, sink') := by
  obtain ⟨handle, rfl, hfull⟩ := full_of_not_accepts hopen h
  exact ⟨.file (handle.keep data), by simp [write, Handle.refuses, hfull, hdata]⟩

namespace Behaviour
variable {w : Wiring} {line : Text} (base : Text) (builtins : List Text) (next : Behaviour)

theorem say_of_tells (h : w.sink.Tells line) (s : State) :
    ∃ sink s', w.sink.write line.lineBytes s = .ok (sink, s') ∧
      (say line next).run base builtins w s = next.run base builtins { w with sink } s' := by
  obtain ⟨sink, s', hwrite⟩ := Outlet.write_of_accepts h.accepts line.lineBytes s
  refine ⟨sink, s', hwrite, ?_⟩
  simp only [say, Text.encode_line h.whole, run, hwrite]

theorem say_of_not_tells (hopen : w.sink.isOpen = true) (h : ¬w.sink.Tells line) (s : State) :
    ∃ failure sink, Untold failure ∧
      (say line next).run base builtins w s = (.raised failure, { w with sink }, s) := by
  by_cases hwhole : line.IsWhole
  · have hfull : ¬w.sink.accepts = true := fun haccepts => h ⟨hwhole, haccepts⟩
    obtain ⟨sink, hwrite⟩ :=
      Outlet.write_of_not_accepts hopen hfull (Text.lineBytes_ne_nil line) s
    refine ⟨_, sink, .noSpace, ?_⟩
    simp only [say, Text.encode_line hwhole, run, hwrite]
  · obtain ⟨e, he⟩ := Utf8.encode_of_not_isWhole (mt Text.isWhole_line.1 hwhole)
    refine ⟨_, w.sink, .unencodable e, ?_⟩
    simp only [say, he, run]

/-- A line at the end of a behaviour leaves the session as it remembers itself, written or not. -/
theorem say_done (line : Text) (hopen : w.sink.isOpen = true) (status : Int) (s : State) :
    ((say line (.done status)).run base builtins w s).2.2.memory = s.memory ∧
      if w.sink.Tells line then
        ((say line (.done status)).run base builtins w s).1 = .returned status
      else
        ∃ failure, Untold failure ∧
          ((say line (.done status)).run base builtins w s).1 = .raised failure := by
  split
  · next h =>
    obtain ⟨sink, s', hwrite, hrun⟩ := say_of_tells base builtins (.done status) h s
    rw [hrun]
    exact ⟨Outlet.memory_write hwrite, rfl⟩
  · next h =>
    obtain ⟨failure, sink, hfailure, hrun⟩ :=
      say_of_not_tells base builtins (.done status) hopen h s
    rw [hrun]
    exact ⟨rfl, failure, hfailure, rfl⟩

end Behaviour
end PipelineShell
