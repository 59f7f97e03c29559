import PipelineShell.Program.Basic
import PipelineShell.Program.Basic
import PipelineShell.Userland.Signal

/-!
# What processes share

Files, open files and pipes of limited capacity, by number. Reading and writing move the position of
an open file for all who have it. A pipe ends when no writer is left and breaks when no reader is.
-/

namespace PipelineShell.Userland

/-- What stands in a pipe. -/
structure Pipe where
  ready : List Bytes := []
  pending : List Bytes := []
  size : Nat := 0
  deriving DecidableEq, Repr

namespace Pipe

def capacity : Nat := 65536

def atom : Nat := 4096

def ofBytes (data : Bytes) : Pipe :=
  if data.isEmpty then {} else { ready := [data], size := data.length }

def add (p : Pipe) (data : Bytes) (size : Nat) : Pipe :=
  if size = 0 then p else { p with pending := data :: p.pending, size := p.size + size }

def takeFrom : (size : Nat) → (done : List Bytes) → List Bytes → Bytes × List Bytes
  | _, done, [] => (done.reverse.flatten, [])
  | size, done, chunk :: rest =>
    let part := chunk.take size
    let taken := part.length
    if taken < size then takeFrom (size - taken) (chunk :: done) rest
    else
      let left := chunk.drop size
      let rest := if left.isEmpty then rest else left :: rest
      match done with
      | [] => (part, rest)
      | done => ((part :: done).reverse.flatten, rest)

def take (p : Pipe) (size : Nat) : Bytes × Pipe :=
  let chunks := if p.pending.isEmpty then p.ready else p.ready ++ p.pending.reverse
  let size := min size p.size
  if size = 0 then ([], p)
  else
    let (data, ready) := takeFrom size [] chunks
    (data, { ready, pending := [], size := p.size - size })

end Pipe

/-- What an open file leads to. -/
inductive OpenFile
  | outgoing (stage : Nat) (output : Output)
  | reading (pipe : Nat)
  | writing (pipe : Nat)
  | file (handle : Handle) (readable writable : Bool)
  | directory (place : Place)
  | device (kind : Device)
  deriving DecidableEq, Repr

/-- What others can see of a process. -/
structure Process where
  number : Nat
  parent : Nat
  holds : List Nat := []
  ignored : List Nat := []
  caught : List Nat := []
  pending : List Nat := []
  status : Option Int := none
  deriving DecidableEq, Repr

/-- What processes share. -/
structure Machine where
  files : FileSystem := {}
  opened : Array OpenFile := #[]
  pipes : Array Pipe := #[]
  written : List Piece := []
  processes : List Process := []
  nextProcess : Nat := 4242
  deriving DecidableEq, Repr

namespace Machine

def add (m : Machine) (f : OpenFile) : Nat × Machine :=
  (m.opened.size, { m with opened := m.opened.push f })

def open? (m : Machine) (number : Nat) : Option OpenFile := m.opened[number]?

def put (m : Machine) (number : Nat) (f : OpenFile) : Machine :=
  { m with opened := m.opened.setIfInBounds number f }

def addPipe (m : Machine) (p : Pipe) : Nat × Nat × Machine :=
  let n := m.pipes.size
  let (reading, m) := { m with pipes := m.pipes.push p }.add (.reading n)
  let (writing, m) := m.add (.writing n)
  (reading, writing, m)

/-! ### Processes -/

def process? (m : Machine) (number : Nat) : Option Process :=
  m.processes.find? (·.number = number)

def update (m : Machine) (number : Nat) (change : Process → Process) : Machine :=
  { m with processes := m.processes.map fun p => if p.number = number then change p else p }

def forget (m : Machine) (number : Nat) : Machine :=
  { m with processes := m.processes.filter (·.number ≠ number) }

def isHeld (m : Machine) (wanted : OpenFile → Bool) : Bool :=
  m.processes.any fun p => p.status.isNone && p.holds.any fun n => (m.open? n).any wanted

def hasWriter (m : Machine) (pipe : Nat) : Bool := m.isHeld (· = .writing pipe)

def hasReader (m : Machine) (pipe : Nat) : Bool := m.isHeld (· = .reading pipe)

def isWritten (m : Machine) (place : Place) : Bool :=
  m.isHeld fun
    | .file handle _ true => handle.place = place
    | _ => false

def send (m : Machine) (number signal : Nat) : Machine :=
  m.update number fun p =>
    let isIdle : Bool := !Signal.isCertain signal &&
      (p.ignored.contains signal || (Signal.isHarmless signal && !p.caught.contains signal))
    if isIdle || p.pending.contains signal then p else { p with pending := p.pending ++ [signal] }

def fate? (m : Machine) (number : Nat) : Option Nat :=
  (m.process? number).bind fun p =>
    p.pending.find? fun n => Signal.isCertain n || !p.caught.contains n

/-- Ends a process. The one that has started it is told, if it wants to be; one whose parent has
ended is forgotten. -/
def finish (m : Machine) (number : Nat) (status : Int) : Machine :=
  match m.process? number with
  | none => m
  | some p =>
    let orphaned : Bool := (m.process? p.parent).all (·.status.isSome)
    let m := m.send p.parent Signal.child
    let m :=
      { m with
        processes := m.processes.filter fun q => q.parent ≠ number || q.status.isNone }
    if orphaned && p.parent ≠ 0 then m.forget number
    else m.update number fun p => { p with status := some status, holds := [], pending := [] }

/-- Takes notice of the first process that has ended of those that a process has started; its number
and how it has ended come out. -/
def reap? (m : Machine) (parent : Nat) : Option (Nat × Int) × Machine :=
  match m.processes.find? fun p => p.parent = parent && p.status.isSome with
  | some p => (some (p.number, p.status.getD 0), m.forget p.number)
  | none => (none, m)

/-! ### Reading and writing -/

def contentAt (m : Machine) (place : Place) : Content :=
  match m.files.get? place with
  | some (.file content _) => content
  | _ => {}

/-- Reads at most so many bytes from an open file, or gives back the machine if that has to wait for
others. -/
def read (m : Machine) (number size : Nat) :
    Except Machine (Except SystemError Bytes × Machine) :=
  match m.open? number with
  | some (.reading n) =>
    let p := (m.pipes[n]?).getD {}
    if p.size = 0 && size > 0 && m.hasWriter n then .error m
    else
      let m := { m with pipes := m.pipes.setIfInBounds n {} }
      let (data, p) := p.take size
      .ok (.ok data, { m with pipes := m.pipes.setIfInBounds n p })
  | some (.file handle true writable) =>
    let data := (m.contentAt handle.place).slice handle.position size
    let handle := { handle with position := handle.position + data.length }
    .ok (.ok data, m.put number (.file handle true writable))
  | some (.device .zero) | some (.device .full) => .ok (.ok (List.replicate size 0), m)
  | some (.device _) => .ok (.ok [], m)
  | some (.directory _) => .ok (.error .isDirectory, m)
  | some (.outgoing _ _) | some (.writing _) | some (.file _ false _) | none =>
    .ok (.error .badDescriptor, m)

/-- Writes to an open file some bytes, whose number is given; no file becomes longer than `limit`.
What is left to be written comes out, or why nothing was written; or the machine is given back if
that has to wait for others. -/
def write (m : Machine) (limit : Option Nat) (number : Nat) (data : Bytes) (size : Nat) :
    Except Machine (Except SystemError Bytes × Machine) :=
  match m.open? number with
  | some (.outgoing stage output) =>
    .ok (.ok [], { m with written := ⟨stage, output, data⟩ :: m.written })
  | some (.writing n) =>
    if !m.hasReader n then .ok (.error .brokenPipe, m)
    else
      let p := (m.pipes[n]?).getD {}
      let free := Pipe.capacity - p.size
      if size ≤ free then
        let m := { m with pipes := m.pipes.setIfInBounds n {} }
        .ok (.ok [], { m with pipes := m.pipes.setIfInBounds n (p.add data size) })
      else
        let room := free - free % Pipe.atom
        if room = 0 || size ≤ Pipe.atom then .error m
        else
          let m := { m with pipes := m.pipes.setIfInBounds n {} }
          .ok (.ok (data.drop room),
            { m with pipes := m.pipes.setIfInBounds n (p.add (data.take room) room) })
  | some (.file handle readable true) =>
    let start := if handle.append then (m.contentAt handle.place).size else handle.position
    let room := (limit.map (· - start)).getD size
    if room = 0 && size > 0 then .ok (.error .fileTooLarge, m)
    else
      let m := m.put number (.device .null)
      let (handle, files) := handle.write (if room < size then data.take room else data) m.files
      let rest := if room < size then data.drop room else []
      .ok (.ok rest, { m with files }.put number (.file handle readable true))
  | some (.device .full) => .ok (.error .noSpace, m)
  | some (.device _) => .ok (.ok [], m)
  | some (.reading _) | some (.file _ _ false) | some (.directory _) | none =>
    .ok (.error .badDescriptor, m)

def handle? (m : Machine) (number : Nat) : Option Handle :=
  match m.open? number with
  | some (.file handle _ _) => some handle
  | _ => none

def isSeekable (m : Machine) (number : Nat) : Bool := (m.handle? number).isSome

def moveTo (m : Machine) (number position : Nat) : Machine :=
  match m.open? number with
  | some (.file handle readable writable) =>
    m.put number (.file { handle with position } readable writable)
  | _ => m

def moveBack (m : Machine) (number size : Nat) : Machine :=
  m.moveTo number (((m.handle? number).map (·.position)).getD 0 - size)

def empty (m : Machine) (number : Nat) : Machine :=
  match (m.handle? number).map (·.place) with
  | none => m
  | some place =>
    match m.files.get? place with
    | some (.file _ mode) => { m with files := m.files.set place (.file {} mode) }
    | _ => m

/-- What is open under a number for a process that has certain descriptors, opened anew: a file from
its beginning, all else as it is. -/
def reopen (m : Machine) (descriptors : List (Nat × Nat)) (descriptor : Nat)
    (readable writable append : Bool) : Except SystemError (Nat × Machine) :=
  match (descriptors.lookup descriptor).bind fun n => (m.open? n).map (n, ·) with
  | none => .error .notFound
  | some (_, .file handle _ _) =>
    .ok (m.add (.file { place := handle.place, append } readable writable))
  | some (number, .reading pipe) =>
    if writable then .ok (m.add (.writing pipe)) else .ok (number, m)
  | some (number, .writing pipe) =>
    if readable then .ok (m.add (.reading pipe)) else .ok (number, m)
  | some (number, _) => .ok (number, m)

def entry? (m : Machine) (descriptors : List (Nat × Nat)) (cwd path : Text) :
    Except SystemError (Option Entry) :=
  match m.files.entry? cwd path with
  | .ok (.device (.opened descriptor)) =>
    match (descriptors.lookup descriptor).bind m.open? with
    | none => .error .notFound
    | some (.file handle _ _) =>
      .ok (some ((m.files.get? handle.place).getD (.file {} Mode.plain)))
    | some (.directory place) => .ok (m.files.get? place)
    | some (.device kind) => .ok (some (.device kind))
    | some (.outgoing _ _) | some (.reading _) | some (.writing _) => .ok none
  | .ok entry => .ok (some entry)
  | .error e => .error e

def openToRead (m : Machine) (descriptors : List (Nat × Nat)) (cwd path : Text) :
    Except SystemError (Nat × Machine) :=
  match m.files.locate cwd path with
  | .error e => .error e
  | .ok place =>
    match m.files.get? place with
    | none => .error .notFound
    | some (.directory _) => .ok (m.add (.directory place))
    | some (.file _ _) => .ok (m.add (.file { place } true false))
    | some (.link _) => .error .linkLoop
    | some (.device (.opened descriptor)) => m.reopen descriptors descriptor true false false
    | some (.device .terminal) => .error .noDevice
    | some (.device kind) => .ok (m.add (.device kind))
    | some (.program _) => .ok (m.add (.device .null))

/-- How a file is opened for writing. -/
inductive Opening
  | overwrite
  | append
  | update
  deriving DecidableEq, Repr

/-- Opens the file at a path for writing, for a process that has certain descriptors; a missing one
is made. -/
def openToWrite (m : Machine) (descriptors : List (Nat × Nat)) (cwd path : Text)
    (opening : Opening) : Except SystemError (Nat × Machine) :=
  match m.files.openForWriting cwd path (opening ≠ .overwrite) with
  | .error e => .error e
  | .ok (handle, files) =>
    let m := { m with files }
    let updating : Bool := opening = .update
    match files.get? handle.place with
    | some (.device (.opened descriptor)) =>
      match m.reopen descriptors descriptor updating true (opening = .append) with
      | .ok (number, m) =>
        .ok (number, if opening = .overwrite then m.empty number else m)
      | .error e => .error e
    | some (.device kind) => .ok (m.add (.device kind))
    | _ =>
      if updating then .ok (m.add (.file { place := handle.place } true true))
      else .ok (m.add (.file handle false true))

end Machine
end PipelineShell.Userland
