import PipelineShell.Stream.Channel

/-!
# Pumps

`_pump` as a function, on a stream at which nobody waits: copies chunk by chunk up to the end of the
stream or a failing call on the sink, then closes what it was told to.
-/

namespace PipelineShell

/-- A stream that is read chunk by chunk. An empty chunk is the end of the stream and nothing
else. -/
structure Source (ρ : Type) where
  read : ρ → Bytes × ρ
  close : ρ → ρ
  content : ρ → Bytes
  content_read : ∀ r, (read r).1 ++ content (read r).2 = content r
  content_of_read_eq_nil : ∀ r, (read r).1 = [] → content r = []

/-- A sink with a state of its own. Each call answers whether the sink still works; the state
after a call that broke it is kept. -/
structure Sink (σ : Type) where
  write : Bytes → σ → σ × Bool
  flush : σ → σ × Bool
  close : σ → σ × Bool

theorem Source.length_content_lt {ρ : Type} (source : Source ρ) {r : ρ}
    (h : (source.read r).1 ≠ []) :
    (source.content (source.read r).2).length < (source.content r).length := by
  have := congrArg List.length (source.content_read r)
  have := List.length_pos_iff.2 h
  simp only [List.length_append] at *
  omega

namespace Pump

def chunkSize : Nat := 65536

variable {ρ σ : Type}

/-- The loop of `_pump`. -/
def copy (source : Source ρ) (sink : Sink σ) (r : ρ) (s : σ) : ρ × σ :=
  let step := source.read r
  if _h : step.1 = [] then (step.2, s)
  else
    match sink.write step.1 s with
    | (s, false) => (step.2, s)
    | (s, true) =>
      match sink.flush s with
      | (s, false) => (step.2, s)
      | (s, true) => copy source sink step.2 s
termination_by (source.content r).length
decreasing_by exact source.length_content_lt _h

/-- `_pump`: copies, then closes the source and the sink if told to. The sink may fail once more on
being closed. -/
def run (source : Source ρ) (sink : Sink σ) (closeSource closeSink : Bool) (r : ρ) (s : σ) :
    ρ × σ :=
  let (r, s) := copy source sink r s
  (if closeSource then source.close r else r, if closeSink then (sink.close s).1 else s)

end Pump

/-- A channel as the source of a pump: it is closed before it is read. -/
def Channel.source : Source Channel where
  read c := c.readSome (some Pump.chunkSize)
  close c := c.close
  content c := c.content
  content_read c := c.content_readSome _
  content_of_read_eq_nil c h := c.content_of_readSome_eq_nil (by decide) h

end PipelineShell
