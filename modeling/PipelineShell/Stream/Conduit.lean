import PipelineShell.Stream.Pump

/-!
# Pipes between a process and its pumps

A pipe of limited capacity, and `_pump` at one end of it turn by turn: `Intake` fills the pipe to
the input of a process, `Outflow` empties the pipe from one of its outputs.
-/

namespace PipelineShell

/-! ### Pipes -/

abbrev Capacity := { n : Nat // 0 < n }

/-- A pipe with a limited capacity, and whether its two ends are open. -/
structure Conduit where
  capacity : Capacity
  content : Bytes := []
  fits : content.length ≤ capacity.1 := by simp
  writable : Bool := true
  readable : Bool := true

namespace Conduit

theorem fits_nil (capacity : Capacity) : ([] : Bytes).length ≤ capacity.1 := Nat.zero_le _

/-- A new pipe. -/
def empty (capacity : Capacity) : Conduit := { capacity, fits := fits_nil capacity }

def room (p : Conduit) : Nat := p.capacity.1 - p.content.length

def dropFront (p : Conduit) (n : Nat) : Conduit :=
  { p with
    content := p.content.drop n
    fits := Nat.le_trans (by simp) p.fits }

def add (p : Conduit) (data : Bytes) : Conduit :=
  { p with
    content := p.content ++ data.take p.room
    fits := by
      have hfits := p.fits
      simp only [room, List.length_append, List.length_take]
      omega }

/-- Takes some bytes off the front, `amount` of them if there are so many and `size` allows it, but
one at least. While there is none and one may still come, the reader waits. An empty answer to a
request for more than none is the end of the stream. -/
def read? (p : Conduit) (size amount : Nat) : Option (Bytes × Conduit) :=
  if size = 0 then some ([], p)
  else if p.content = [] then if p.writable then none else some ([], p)
  else some (p.content.take (min (max amount 1) size), p.dropFront (min (max amount 1) size))

/-- Whether such an answer is the end of the stream. -/
def isEnd (size : Nat) (data : Bytes) : Bool := size != 0 && data.isEmpty

/-- Adds the front of some bytes, `amount` of them if there is room for so many, but one at least.
While there is no room, the writer waits. The answer is what has been added. -/
def write? (p : Conduit) (data : Bytes) (amount : Nat) : Option (Bytes × Conduit) :=
  if data = [] then some ([], p)
  else if p.room = 0 then none
  else
    let part := data.take (min (max amount 1) p.room)
    some (part, p.add part)

def closeWriting (p : Conduit) : Conduit := { p with writable := false }

def closeReading (p : Conduit) : Conduit := { p with readable := false }

end Conduit

/-! ### Pumps that take turns -/

/-- Where a pump stands between two turns. -/
inductive Phase
  | reading
  | holding (rest : Bytes)
  /-- The copy is over, and what the pump was told to close is still open. -/
  | closing
  | finished
  deriving DecidableEq, Repr

namespace Phase

def onRead (chunk : Bytes) : Phase := if chunk = [] then .closing else .holding chunk

def onWrite (rest : Bytes) : Phase := if rest = [] then .reading else .holding rest

def held : Phase → Bytes
  | .holding rest => rest
  | _ => []

end Phase

/-- The input of a process: the pump that fills its pipe, and what the process has read. -/
structure Intake where
  source : Channel
  phase : Phase
  pipe : Conduit
  taken : Bytes := []

namespace Intake

/-- A turn of the pump. When the program has closed its end, the rest of the stream is not
wanted. -/
def pump? (i : Intake) (amount : Nat) : Option Intake :=
  match i.phase with
  | .reading =>
    (i.source.readSome? (some Pump.chunkSize)).map fun (chunk, source) =>
      { i with source, phase := .onRead chunk }
  | .holding rest =>
    if i.pipe.readable then
      (i.pipe.write? rest amount).map fun (part, pipe) =>
        { i with pipe, phase := .onWrite (rest.drop part.length) }
    else some { i with phase := .closing }
  | .closing => some { i with pipe := i.pipe.closeWriting, phase := .finished }
  | .finished => none

def read? (i : Intake) (size amount : Nat) : Option (Option Bytes × Intake) :=
  if i.pipe.readable then
    (i.pipe.read? size amount).map fun (data, pipe) =>
      (some data, { i with pipe, taken := i.taken ++ data })
  else some (none, i)

def shut (i : Intake) : Intake := { i with pipe := i.pipe.closeReading }

end Intake

/-- An output of a process: what the process has written, and the pump that empties its pipe. -/
structure Outflow where
  pipe : Conduit
  phase : Phase := .reading
  written : Bytes := []

namespace Outflow

/-- A turn of the pump, with what the sink gets in it. The sink takes a chunk at once. -/
def pump? (f : Outflow) (amount : Nat) : Option (List Bytes × Outflow) :=
  match f.phase with
  | .reading =>
    (f.pipe.read? Pump.chunkSize amount).map fun (chunk, pipe) =>
      ([], { f with pipe, phase := .onRead chunk })
  | .holding chunk => some ([chunk], { f with phase := .reading })
  | .closing => some ([], { f with pipe := f.pipe.closeReading, phase := .finished })
  | .finished => none

/-- A write of the program, which fails once one of the ends is closed. The answer is how many
bytes have been written. -/
def write? (f : Outflow) (data : Bytes) (amount : Nat) : Option (Option Nat × Outflow) :=
  if f.pipe.writable && f.pipe.readable then
    (f.pipe.write? data amount).map fun (part, pipe) =>
      (some part.length, { f with pipe, written := f.written ++ part })
  else some (none, f)

def shut (f : Outflow) : Outflow := { f with pipe := f.pipe.closeWriting }

/-- A read of a program that has the other end of the pipe. -/
def read? (f : Outflow) (size amount : Nat) : Option (Option Bytes × Outflow) :=
  if f.pipe.readable then
    (f.pipe.read? size amount).map fun (data, pipe) => (some data, { f with pipe })
  else some (none, f)

/-- That program closes its end. -/
def leave (f : Outflow) : Outflow := { f with pipe := f.pipe.closeReading }

end Outflow

end PipelineShell
