import PipelineShell.Proofs.Execution.Line
import PipelineShell.Proofs.Execution.Stage

/-!
# What a session remembers

Environment, directory and history are changed by builtins only.
-/

namespace PipelineShell

/-- The part of a session that is neither input nor output. -/
structure Memory where
  env : Environment
  cwd : Text
  history : List Text
  deriving DecidableEq, Repr

/-- What the session of a state remembers. -/
def State.memory (s : State) : Memory := ⟨s.session.env, s.session.cwd, s.session.history⟩

namespace State

@[simp] theorem memory_emit (s : State) (output : Output) (data : Bytes) :
    (s.emit output data).memory = s.memory := by
  cases output <;> rfl

@[simp] theorem memory_conclude (s : State) (message : Text) (status : Int) :
    (s.conclude message status).2.memory = s.memory := by
  by_cases h : message.IsWhole
  · rw [s.conclude_of_isWhole h, memory_emit]
  · obtain ⟨e, he⟩ := conclude_of_not_isWhole h status
    rw [he]

theorem memory_openOutlet {s s' : State} {base : Text} {output : Output}
    {redirect : Option Redirect} {sink : Outlet}
    (h : s.openOutlet base output redirect = .ok (sink, s')) : s'.memory = s.memory := by
  unfold memory
  rw [(opened_of_openOutlet h).1]

end State

@[simp] theorem Inlet.memory_read (source : Inlet) (size : Option Nat) (s : State) :
    (source.read size s).2.2.memory = s.memory := by
  cases source <;> cases size <;> rfl

namespace Outlet

theorem memory_write {sink sink' : Outlet} {data : Bytes} {s s' : State}
    (h : sink.write data s = .ok (sink', s')) : s'.memory = s.memory := by
  cases wrote_of_write h with
  | session output => exact s.memory_emit output data
  | file full files => rfl
  | channel closed content => rfl

@[simp] theorem memory_relay (sink : Outlet) (data : Bytes) (s : State) :
    (sink.relay data s).2.memory = s.memory := by
  have hwrite (data : Bytes) (target : Outlet × State) (h : target.2.memory = s.memory) :
      (pumpSink.write data target).1.2.memory = s.memory := by
    unfold pumpSink
    cases hw : target.1.write data target.2 with
    | error refusal => simpa only [hw] using h
    | ok target' => simpa only [hw] using (memory_write hw).trans h
  exact Pump.copy_keeps (P := fun target : Outlet × State => target.2.memory = s.memory) hwrite
    (fun _ h => h) (Channel.ofBytes data) rfl

end Outlet

@[simp] theorem Wiring.memory_deliver (w : Wiring) (s : State) (broken : List (Nat × Output))
    (output : List Piece) : (w.deliver s broken output).2.memory = s.memory := by
  induction output generalizing w s broken with
  | nil => rfl
  | cons piece rest ih =>
    obtain ⟨stage, o, data⟩ := piece
    rw [deliver]
    split
    · exact ih w s broken
    · exact (ih _ _ _).trans ((w.outlet o).memory_relay data s)

namespace Shell
variable (sh : Shell) (held : List Place)

theorem memory_runProgram (c : Command) (executable : Text) (w : Wiring) (s : State) :
    (sh.runProgram held c executable w s).2.2.memory = s.memory := by
  cases hl : sh.programs.launch (invocation s held c executable) s.files with
  | error refusal =>
    rw [sh.runProgram_refused hl]
    rcases refused_cases c s refusal with ⟨_, _, _, hrefused⟩ | ⟨_, _, hrefused⟩
    · simp only [hrefused, State.memory_emit]
    · simp only [hrefused]
  | ok process =>
    rw [sh.runProgram_launched hl]
    exact Wiring.memory_deliver ..

theorem memory_runTogether (commands : List (Command × Text)) (sink errors : Outlet) (s : State) :
    (sh.runTogether held commands sink errors s).1.state.memory = s.memory := by
  have hfed : (if (sh.startAll s held sink errors 0 none commands).pumps.contains .feed
      then s.takeInput else (([] : Bytes), s)).2.memory = s.memory := by
    split <;> rfl
  unfold runTogether
  simp only
  split <;> simp only [State.memory_conclude, Wiring.memory_deliver] <;> exact hfed

end Shell
end PipelineShell
