import PipelineShell.Builtin.Behaviour
import PipelineShell.FileSystem.Handle
import PipelineShell.Line.Pipeline
import PipelineShell.Stream.Channel

/-!
# The wiring of a stage

The three streams that a stage is given, and a builtin run on them.
-/

namespace PipelineShell

/-- What a running pipeline works on. -/
structure State where
  session : Session
  files : FileSystem
  deriving DecidableEq, Repr

/-- How a stage, a pipeline or a line ends. -/
inductive Ended
  | returned (status : Int)
  | raised (failure : Failure)
  deriving DecidableEq, Repr

/-- Where a stage reads from. -/
inductive Inlet
  | session
  | channel (channel : Channel)
  deriving DecidableEq, Repr

/-- Where a stage writes to. -/
inductive Outlet
  | session (output : Output)
  | file (handle : Handle)
  | channel (channel : Channel)
  deriving DecidableEq, Repr

namespace State

def emit (s : State) (output : Output) (data : Bytes) : State :=
  match output with
  | .stdout => { s with session := { s.session with stdout := s.session.stdout ++ data } }
  | .stderr => { s with session := { s.session with stderr := s.session.stderr ++ data } }

/-- `report`: writes a message to the error output of the session, unless it has no encoding. -/
def report (s : State) (message : Text) : Except Failure State :=
  match s.session.report message with
  | .error e => .error (.unencodable e)
  | .ok session => .ok { s with session }

/-- Reports a message and ends with a status; a message that has no encoding ends otherwise. -/
def conclude (s : State) (message : Text) (status : Int) : Ended × State :=
  match s.report message with
  | .error failure => (.raised failure, s)
  | .ok s => (.returned status, s)

def takeInput (s : State) : Bytes × State :=
  (s.session.stdin, { s with session := { s.session with stdin := [] } })

end State

/-- Reads at most `size` bytes, or all; the channels of a pipeline are closed before they are
read, so no read waits. -/
def Inlet.read (source : Inlet) (size : Option Nat) (s : State) : Bytes × Inlet × State :=
  match source, size with
  | .session, none => (s.takeInput.1, .session, s.takeInput.2)
  | .session, some n =>
    (s.session.stdin.take n, .session,
      { s with session := { s.session with stdin := s.session.stdin.drop n } })
  | .channel c, none =>
    let (data, c) := c.readAll
    (data, .channel c, s)
  | .channel c, some n =>
    let (data, c) := c.readSome (some n)
    (data, .channel c, s)

/-- Writes at once. A closed channel refuses, and so does a file for which there is no room; what
this keeps is lost when it is closed. -/
def Outlet.write (sink : Outlet) (data : Bytes) (s : State) :
    Except (Failure × Outlet) (Outlet × State) :=
  match sink with
  | .session output => .ok (.session output, s.emit output data)
  | .file handle =>
    if handle.refuses data then .error (.unwritable .noSpace, .file (handle.keep data))
    else
      let (handle, files) := handle.write data s.files
      .ok (.file handle, { s with files })
  | .channel c =>
    match c.write? data with
    | none => .error (.closedChannel, .channel c)
    | some c => .ok (.channel c, s)

def Outlet.accepts : Outlet → Bool
  | .session _ => true
  | .file handle => !handle.full
  | .channel c => !c.closed

/-- Closes what a pipeline has opened itself; the session keeps its outputs. -/
def Outlet.close : Outlet → Outlet
  | .session output => .session output
  | .file handle => .file handle.close
  | .channel c => .channel c.close

def Outlet.handle? : Outlet → Option Handle
  | .file handle => some handle
  | _ => none

def Outlet.hasLost (sink : Outlet) : Bool := sink.handle?.any (·.lost)

/-- The three ends of a stage. -/
structure Wiring where
  source : Inlet
  sink : Outlet
  errors : Outlet
  deriving DecidableEq, Repr

def Wiring.outlet (w : Wiring) : Output → Outlet
  | .stdout => w.sink
  | .stderr => w.errors

def Wiring.withOutlet (w : Wiring) : Output → Outlet → Wiring
  | .stdout, sink => { w with sink }
  | .stderr, errors => { w with errors }

def Behaviour.run (base : Text) (builtins : List Text) :
    Behaviour → Wiring → State → Ended × Wiring × State
  | .done status, w, s => (.returned status, w, s)
  | .fail failure, w, s => (.raised failure, w, s)
  | .read size next, ⟨source, sink, errors⟩, s =>
    let (data, source, s) := source.read size s
    (next data).run base builtins ⟨source, sink, errors⟩ s
  | .write data next, w, s =>
    match w.sink.write data s with
    | .error (failure, sink) => (.raised failure, { w with sink }, s)
    | .ok (sink, s) => next.run base builtins { w with sink } s
  | .complain data next, w, s =>
    match w.errors.write data s with
    | .error (failure, errors) => (.raised failure, { w with errors }, s)
    | .ok (errors, s) => next.run base builtins { w with errors } s
  | .look next, w, s => (next ⟨s.session, s.files, base, builtins⟩).run base builtins w s
  | .enter directory next, w, s =>
    next.run base builtins w { s with session := s.session.enter directory }
  | .remember entries next, w, s =>
    next.run base builtins w { s with session := s.session.remember entries }

end PipelineShell
