import PipelineShell.Failure
import PipelineShell.Stream.ChunkQueue
import PipelineShell.Stream.Pump

/-!
# A pump call by call

`_pump` as a step function, one call on the stream or the sink at a time. The stream may make its
reader wait; a broken pipe ends the copying, any other fault is raised after closing.
-/

namespace PipelineShell

/-- A stream as its reader meets it, who may have to wait but is never refused. -/
structure Supply (ρ : Type) where
  /-- A chunk of at most so many bytes, unless the reader waits for ever. An empty chunk is the end
  of the stream. -/
  read? : (size : Nat) → ρ → Option (Bytes × ρ)
  close : ρ → ρ

/-- How a call on a sink fails. -/
inductive SinkFault
  | broken
  | other (failure : Failure)
  deriving DecidableEq, Repr

def SinkFault.passedOn? : SinkFault → Option SinkFault
  | .broken => none
  | .other failure => some (.other failure)

/-- A sink whose calls say how they failed, if they did. The state after a call that failed is
kept. -/
structure Drain (σ : Type) where
  write : Bytes → σ → Option SinkFault × σ
  flush : σ → Option SinkFault × σ
  close : σ → Option SinkFault × σ

variable {ρ σ : Type}

def Drain.sink (drain : Drain σ) : Sink σ where
  write chunk s := ((drain.write chunk s).2, (drain.write chunk s).1.isNone)
  flush s := ((drain.flush s).2, (drain.flush s).1.isNone)
  close s := ((drain.close s).2, (drain.close s).1.isNone)

def Source.supply (source : Source ρ) : Supply ρ where
  read? _ r := some (source.read r)
  close := source.close

def ChunkQueue.supply : Supply ChunkQueue where
  read? size q := q.readSome? size
  close := ChunkQueue.close

/-- The arguments of `_pump`: a stream, a sink, and which of them to close. -/
structure Pump (ρ σ : Type) where
  supply : Supply ρ
  drain : Drain σ
  closesSource : Bool
  closesSink : Bool

namespace Pump

/-- A call of a pump with what has come of it. -/
inductive Call
  | read (chunk : Bytes)
  | write (chunk : Bytes) (fault : Option SinkFault)
  | flush (fault : Option SinkFault)
  | closeSource
  | closeSink (fault : Option SinkFault)
  deriving DecidableEq, Repr

/-- What a pump does next. While it closes it keeps the fault that it is to pass on. -/
inductive Point
  | reading
  | writing (chunk : Bytes)
  | flushing
  | closingSource (raised : Option SinkFault)
  | closingSink (raised : Option SinkFault)
  | done (raised : Option SinkFault)
  deriving DecidableEq, Repr

/-- A pump at work, with the calls that it has made. -/
structure Progress (ρ σ : Type) where
  point : Point := .reading
  source : ρ
  sink : σ
  calls : List Call := []
  deriving DecidableEq, Repr

def start (source : ρ) (sink : σ) : Progress ρ σ := { source, sink }

def Point.after (next : Point) : Option SinkFault → Point
  | none => next
  | some fault => .closingSource fault.passedOn?

def read? (pump : Pump ρ σ) (p : Progress ρ σ) : Option (Progress ρ σ) :=
  (pump.supply.read? chunkSize p.source).map fun (chunk, source) =>
    { p with
      source
      point := if chunk.isEmpty then .closingSource none else .writing chunk
      calls := p.calls ++ [.read chunk] }

def write (pump : Pump ρ σ) (chunk : Bytes) (p : Progress ρ σ) : Progress ρ σ :=
  let (fault, sink) := pump.drain.write chunk p.sink
  { p with
    sink
    point := Point.flushing.after fault
    calls := p.calls ++ [.write chunk fault] }

def flush (pump : Pump ρ σ) (p : Progress ρ σ) : Progress ρ σ :=
  let (fault, sink) := pump.drain.flush p.sink
  { p with
    sink
    point := Point.reading.after fault
    calls := p.calls ++ [.flush fault] }

def closeSource (pump : Pump ρ σ) (raised : Option SinkFault) (p : Progress ρ σ) : Progress ρ σ :=
  if pump.closesSource then
    { p with
      source := pump.supply.close p.source
      point := .closingSink raised
      calls := p.calls ++ [.closeSource] }
  else { p with point := .closingSink raised }

/-- Closes the sink if told to. A break is passed over here as well; any other fault takes the place
of the one that was to be passed on. -/
def closeSink (pump : Pump ρ σ) (raised : Option SinkFault) (p : Progress ρ σ) : Progress ρ σ :=
  if pump.closesSink then
    let (fault, sink) := pump.drain.close p.sink
    { p with
      sink
      point := .done ((fault.bind SinkFault.passedOn?).or raised)
      calls := p.calls ++ [.closeSink fault] }
  else { p with point := .done raised }

/-- One step of `_pump`, unless it is done or its stream makes it wait for ever. -/
def step? (pump : Pump ρ σ) (p : Progress ρ σ) : Option (Progress ρ σ) :=
  match p.point with
  | .reading => pump.read? p
  | .writing chunk => some (pump.write chunk p)
  | .flushing => some (pump.flush p)
  | .closingSource raised => some (pump.closeSource raised p)
  | .closingSink raised => some (pump.closeSink raised p)
  | .done _ => none

def run? (pump : Pump ρ σ) : Nat → Progress ρ σ → Option (Progress ρ σ)
  | 0, p => some p
  | n + 1, p => (pump.step? p).bind (pump.run? n)

end Pump
end PipelineShell
