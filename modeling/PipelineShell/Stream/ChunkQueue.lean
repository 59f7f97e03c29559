import PipelineShell.Stream.Channel

/-!
# The queue of a channel

`Channel` as the program keeps it, with a queue of chunks, the end of the stream as a mark in it,
and the rest of the chunk being read. A negative size asks for all.
-/

namespace PipelineShell

/-- `Channel` with its fields. -/
structure ChunkQueue where
  /-- The chunks not yet begun, with nothing in the place of the mark. -/
  entries : List (Option Bytes) := []
  pending : Bytes := []
  atEnd : Bool := false
  closed : Bool := false
  deriving DecidableEq, Repr

namespace ChunkQueue

/-- `write`: a closed queue takes no chunk, and an empty chunk is not kept. -/
def write? (q : ChunkQueue) (data : Bytes) : Option ChunkQueue :=
  if q.closed then none
  else if data.isEmpty then some q
  else some { q with entries := q.entries ++ [some data] }

/-- `close`: puts the mark behind all chunks, once. -/
def close (q : ChunkQueue) : ChunkQueue :=
  if q.closed then q else { q with closed := true, entries := q.entries ++ [none] }

/-- Takes the next entry when nothing is left of the last one, unless that would wait. -/
def refill? (q : ChunkQueue) : Option ChunkQueue :=
  if q.pending.isEmpty && !q.atEnd then
    match q.entries with
    | [] => none
    | none :: rest => some { q with entries := rest, atEnd := true }
    | some chunk :: rest => some { q with entries := rest, pending := chunk }
  else some q

/-- `read1`: all that is left of one chunk, or at most `size` bytes. -/
def readSome? (q : ChunkQueue) (size : Int) : Option (Bytes × ChunkQueue) :=
  q.refill?.map fun q =>
    if size < 0 ∨ q.pending.length ≤ size then (q.pending, { q with pending := [] })
    else (q.pending.take size.toNat, { q with pending := q.pending.drop size.toNat })

/-- How much there is at most still to take, entry by entry and byte by byte. -/
def measure (q : ChunkQueue) : Nat := q.entries.length + q.pending.length

theorem length_entries_of_refill? {q p : ChunkQueue} (h : q.refill? = some p)
    (hp : p.pending ≠ []) : p.entries.length < q.measure := by
  have hpos : 0 < p.pending.length := List.length_pos_iff.2 hp
  unfold refill? at h
  split at h
  · split at h
    · cases h
    · next rest he =>
      cases h
      simp only [measure, he, List.length_cons]
      omega
    · next chunk rest he =>
      cases h
      simp only [measure, he, List.length_cons]
      omega
  · cases h
    simp only [measure]
    omega

theorem measure_of_readSome? {q q' : ChunkQueue} {data : Bytes}
    (h : q.readSome? (-1) = some (data, q')) (hd : data ≠ []) : q'.measure < q.measure := by
  obtain ⟨p, hp, heq⟩ := Option.map_eq_some_iff.1 h
  rw [if_pos (Or.inl (by decide)), Prod.mk.injEq] at heq
  obtain ⟨rfl, rfl⟩ := heq
  have hlt := length_entries_of_refill? hp hd
  simpa only [measure, List.length_nil, Nat.add_zero] using hlt

def chunks? (q : ChunkQueue) : Option (List Bytes × ChunkQueue) :=
  match _h : q.readSome? (-1) with
  | none => none
  | some (chunk, rest) =>
    if _hc : chunk = [] then some ([], rest)
    else (chunks? rest).map fun (chunks, q) => (chunk :: chunks, q)
termination_by q.measure
decreasing_by exact measure_of_readSome? _h _hc

/-- `read`: at most `size` bytes from one chunk, or everything up to the end of the stream. -/
def read? (q : ChunkQueue) (size : Int) : Option (Bytes × ChunkQueue) :=
  if 0 ≤ size then q.readSome? size
  else q.chunks?.map fun (chunks, q) => (Bytes.ofChunks chunks, q)

def channel (q : ChunkQueue) : Channel :=
  { chunks := q.entries.filterMap id, pending := q.pending, closed := q.closed }

end ChunkQueue

namespace Channel

/-- What is asked of a channel. -/
inductive Request
  | write (data : Bytes)
  | read (size : Int)
  | readSome (size : Int)
  | flush
  | close
  deriving DecidableEq, Repr

/-- What is answered. -/
inductive Answer
  | written (count : Nat)
  | refused
  | bytes (data : Bytes)
  | done
  deriving DecidableEq, Repr

def limit (size : Int) : Option Nat := if size < 0 then none else some size.toNat

def serve? (c : Channel) : Request → Option (Answer × Channel)
  | .write data =>
    match c.write? data with
    | some c => some (.written data.length, c)
    | none => some (.refused, c)
  | .read size => (c.read? (limit size)).map fun (data, c) => (.bytes data, c)
  | .readSome size => (c.readSome? (limit size)).map fun (data, c) => (.bytes data, c)
  | .flush => some (.done, c)
  | .close => some (.done, c.close)

end Channel

def ChunkQueue.serve? (q : ChunkQueue) : Channel.Request → Option (Channel.Answer × ChunkQueue)
  | .write data =>
    match q.write? data with
    | some q => some (.written data.length, q)
    | none => some (.refused, q)
  | .read size => (q.read? size).map fun (data, q) => (.bytes data, q)
  | .readSome size => (q.readSome? size).map fun (data, q) => (.bytes data, q)
  | .flush => some (.done, q)
  | .close => some (.done, q.close)

end PipelineShell
