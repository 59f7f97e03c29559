import PipelineShell.Text.Basic

/-!
# Channels

`Channel`, as the list of its chunks: `write`, `close`, and `read1` and `read`, which wait at an
open channel with nothing in it.
-/

namespace PipelineShell

/-- The chunks not yet begun, what is left of the chunk being read, and whether the writer is
done. -/
structure Channel where
  chunks : List Bytes := []
  pending : Bytes := []
  closed : Bool := false
  deriving DecidableEq, Repr

namespace Channel

def content (c : Channel) : Bytes := c.pending ++ c.chunks.flatten

def ofBytes (data : Bytes) : Channel :=
  { chunks := if data.isEmpty then [] else [data], closed := true }

/-- `write`: adds a chunk; a closed channel takes none, and an empty chunk is not kept. -/
def write? (c : Channel) (data : Bytes) : Option Channel :=
  if c.closed then none
  else if data.isEmpty then some c
  else some { c with chunks := c.chunks ++ [data] }

def close (c : Channel) : Channel := { c with closed := true }

def ready (c : Channel) : Bool := c.closed || !c.pending.isEmpty || !c.chunks.isEmpty

def refill (c : Channel) : Channel :=
  match c.pending, c.chunks.dropWhile List.isEmpty with
  | [], chunk :: chunks => { c with pending := chunk, chunks := chunks }
  | _, _ => c

/-- Reads from one chunk: all that is left of it, or at most `size` bytes. An empty answer to a
request for more than none is the end of the stream. -/
def readSome (c : Channel) (size : Option Nat) : Bytes × Channel :=
  let c := c.refill
  match size with
  | none => (c.pending, { c with pending := [] })
  | some n => (c.pending.take n, { c with pending := c.pending.drop n })

def readAll (c : Channel) : Bytes × Channel :=
  (Bytes.ofChunks (c.pending :: c.chunks), { c with pending := [], chunks := [] })

def readSome? (c : Channel) (size : Option Nat) : Option (Bytes × Channel) :=
  if c.ready then some (c.readSome size) else none

/-- Reads at most `size` bytes from one chunk, or everything when no size is given, unless that
would wait; without a size the reader waits for the channel to be closed. -/
def read? (c : Channel) : (size : Option Nat) → Option (Bytes × Channel)
  | some n => c.readSome? (some n)
  | none => if c.closed then some c.readAll else none

theorem ready_of_closed {c : Channel} (h : c.closed = true) : c.ready = true := by
  simp [ready, h]

@[simp] theorem closed_close (c : Channel) : c.close.closed = true := rfl

@[simp] theorem content_close (c : Channel) : c.close.content = c.content := rfl

theorem readAll_eq (c : Channel) :
    c.readAll = (c.content, { c with pending := [], chunks := [] }) := by
  simp [readAll, content, Bytes.ofChunks_eq_flatten]

theorem flatten_dropWhile_isEmpty (chunks : List Bytes) :
    (chunks.dropWhile List.isEmpty).flatten = chunks.flatten := by
  induction chunks with
  | nil => rfl
  | cons chunk rest ih =>
    cases chunk with
    | nil => simpa using ih
    | cons b bs => simp

/-- What is left after skipping empty chunks starts with one that holds something. -/
theorem ne_nil_of_dropWhile_isEmpty {chunks rest : List Bytes} {chunk : Bytes}
    (h : chunks.dropWhile List.isEmpty = chunk :: rest) : chunk ≠ [] := by
  have hne : chunks.dropWhile List.isEmpty ≠ [] := by simp [h]
  have hd := List.head_dropWhile_not List.isEmpty hne
  simp only [h, List.head_cons] at hd
  simpa using hd

theorem closed_refill (c : Channel) : c.refill.closed = c.closed := by
  unfold refill
  split <;> rfl

theorem content_refill (c : Channel) : c.refill.content = c.content := by
  have h := flatten_dropWhile_isEmpty c.chunks
  unfold refill
  split
  · next hp hc => simp only [content, hp, ← h, hc, List.flatten_cons, List.nil_append]
  · rfl

/-- What is read comes off the front of the content, and nothing else changes it. -/
theorem content_readSome (c : Channel) (size : Option Nat) :
    (c.readSome size).1 ++ (c.readSome size).2.content = c.content := by
  rw [← content_refill c]
  cases size <;> simp [readSome, content, ← List.append_assoc]

theorem content_eq_nil_of_refill {c : Channel} (h : c.refill.pending = []) : c.content = [] := by
  have hf := flatten_dropWhile_isEmpty c.chunks
  unfold refill at h
  split at h
  · next hc => exact absurd h (ne_nil_of_dropWhile_isEmpty hc)
  · next hn =>
    cases hd : c.chunks.dropWhile List.isEmpty with
    | nil => simp [content, h, ← hf, hd]
    | cons chunk rest => exact absurd hd (hn chunk rest h)

/-- A read of more than no bytes comes back empty only at the end of the content. -/
theorem content_of_readSome_eq_nil (c : Channel) {n : Nat} (hn : 0 < n)
    (h : (c.readSome (some n)).1 = []) : c.content = [] := by
  refine content_eq_nil_of_refill ?_
  simp only [readSome, List.take_eq_nil_iff] at h
  exact h.resolve_left (by omega)

theorem content_write {c d : Channel} {data : Bytes} (h : c.write? data = some d) :
    d.content = c.content ++ data := by
  unfold write? at h
  split at h
  · simp at h
  · split at h
    · next hd => simp_all
    · simp only [Option.some.injEq] at h
      subst h
      simp [content]

end Channel
end PipelineShell
