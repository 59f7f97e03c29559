import PipelineShell.Userland.Machine

/-!
# Processes step by step

A task is a part of the work of a process, up to the next point where another process may run, and
hands on its result.
-/

namespace PipelineShell.Userland

/-- What has come of a turn. -/
inductive Step
  | ended (status : Int) (machine : Machine)
  /-- Others have their turns before the process goes on; whether it has done anything comes with
  it, or only waits for them. -/
  | paused (active : Bool) (machine : Machine) (next : Machine → Step)
  /-- The process has started another one and goes on. The new one has its first turn after so many
  rounds. -/
  | started (number rounds : Nat) (machine : Machine) (child next : Machine → Step)

abbrev Turn := Machine → Step

def blockSize : Nat := 65536

def Task (α : Type) : Type := Machine → (α → Turn) → Step

namespace Task

variable {α β : Type}

@[inline] def andThen (x : Task α) (f : α → Task β) : Task β := fun m k => x m fun a m => f a m k

instance : Monad Task where
  pure a := fun m k => k a m
  bind := andThen

def ask (f : Machine → α) : Task α := fun m k => k (f m) m

def change (f : Machine → Machine) : Task Unit := fun m k => k () (f m)

def act (f : Machine → α × Machine) : Task α := fun m k =>
  let (a, m) := f m
  k a m

def exit (status : Int) : Task α := fun m _ => .ended status m

def pause : Task Unit := fun m k => .paused true m (k ())

def rest : Nat → Task Unit
  | 0 => pure ()
  | n + 1 => fun m k => .paused true m fun m => rest n m k

def limit : Nat := 1000000000

def retry (attempt : Machine → Except Machine (α × Machine)) : Nat → Task α
  | 0 => exit (-Signal.kill)
  | n + 1 => fun m k =>
    match attempt m with
    | .ok (a, m) => k a m
    | .error m => .paused false m fun m => retry attempt n m k

def await (attempt : Machine → Except Machine (α × Machine)) : Task α := retry attempt limit

def iterate {σ : Type} (step : σ → Task (Bool × σ)) : Nat → σ → Task σ
  | 0, x => pure x
  | n + 1, x => do
    match ← step x with
    | (true, x) => iterate step n x
    | (false, x) => return x

def loop {σ : Type} (step : σ → Task (Bool × σ)) (x : σ) : Task σ := iterate step limit x

def read (number size : Nat) : Task (Except SystemError Bytes) := await fun m => m.read number size

def readOn (number : Nat) : Nat → List Bytes → Task (Except SystemError Bytes)
  | 0, done => return .ok done.reverse.flatten
  | n + 1, done => do
    match ← read number blockSize with
    | .error e => return .error e
    | .ok [] => return .ok done.reverse.flatten
    | .ok data => readOn number n (data :: done)

def readAll (number : Nat) : Task (Except SystemError Bytes) := readOn number limit []

def writeOn (most : Option Nat) (number : Nat) : Nat → Bytes → Nat → Task (Option SystemError)
  | 0, _, _ => return none
  | n + 1, data, size => do
    match ← await fun m => m.write most number data size with
    | .error cause => return some cause
    | .ok [] => return none
    | .ok rest =>
      pause
      writeOn most number n rest rest.length

/-- Writes some bytes to an open file, no file becoming longer than `most`; why that was refused
comes out, if it was. -/
def write (most : Option Nat) (number : Nat) (data : Bytes) : Task (Option SystemError) :=
  if data.isEmpty then return none else writeOn most number limit data data.length

def turn (work : Task Int) : Turn := fun m => work m .ended

end Task
end PipelineShell.Userland
