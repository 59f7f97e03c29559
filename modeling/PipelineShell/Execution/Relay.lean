import PipelineShell.Line.Pipeline
import PipelineShell.Stream.Conduit

/-!
# Relays

The process of `_run_external_stage` and its three pumps, each at the other end of one of its pipes.
They take turns in any order.
-/

namespace PipelineShell

/-- What a program does next, and how it goes on with the answer. An operation on an end that is
closed is answered with nothing. -/
inductive Wish (μ : Type)
  | read (size : Nat) (next : Option Bytes → μ)
  | write (output : Output) (data : Bytes) (next : Option Nat → μ)
  | closeInput (next : μ)
  | closeOutput (output : Output) (next : μ)
  | exit (status : Int)

/-- A program by what it does next, which depends on its memory. -/
structure Child where
  Memory : Type
  start : Memory
  wish : Memory → Wish Memory

inductive Activity (μ : Type)
  | running (memory : μ)
  | exited (status : Int)

/-- The process of `_run_external_stage` with its pumps, and what the sinks have got, in order. -/
structure Relay (child : Child) where
  activity : Activity child.Memory
  intake : Intake
  outflow : Output → Outflow
  delivered : List (Output × Bytes) := []

/-- Whose turn it is, and how much may be moved in it. -/
inductive RelayMove
  | program (amount : Nat)
  | feed (amount : Nat)
  | drain (output : Output) (amount : Nat)
  deriving DecidableEq, Repr

def RelayMove.isPump : RelayMove → Bool
  | .program _ => false
  | _ => true

namespace Relay

variable {child : Child}

/-- A process that has just been started. If it is not fed, its input is closed. -/
def start (child : Child) (source : Channel) (feeds : Bool) (input : Capacity)
    (outputs : Output → Capacity) : Relay child where
  activity := .running child.start
  intake := { source, phase := if feeds then .reading else .closing, pipe := { capacity := input } }
  outflow o := { pipe := { capacity := outputs o } }

def withOutflow (r : Relay child) (o : Output) (f : Outflow) : Relay child :=
  { r with outflow := fun p => if p = o then f else r.outflow p }

/-- A turn of the program, unless it waits. When it exits, all its ends are closed. -/
def proceed? (r : Relay child) (amount : Nat) : Option (Relay child) :=
  match r.activity with
  | .exited _ => none
  | .running memory =>
    match child.wish memory with
    | .read size next =>
      (r.intake.read? size amount).map fun (answer, intake) =>
        { r with activity := .running (next answer), intake }
    | .write o data next =>
      ((r.outflow o).write? data amount).map fun (answer, f) =>
        { r.withOutflow o f with activity := .running (next answer) }
    | .closeInput next => some { r with activity := .running next, intake := r.intake.shut }
    | .closeOutput o next =>
      some { r.withOutflow o (r.outflow o).shut with activity := .running next }
    | .exit status =>
      some { r with
        activity := .exited status
        intake := r.intake.shut
        outflow := fun o => (r.outflow o).shut }

def step? (r : Relay child) : RelayMove → Option (Relay child)
  | .program amount => r.proceed? amount
  | .feed amount => (r.intake.pump? amount).map fun intake => { r with intake }
  | .drain o amount =>
    ((r.outflow o).pump? amount).map fun (pieces, f) =>
      { r.withOutflow o f with delivered := r.delivered ++ pieces.map (o, ·) }

def run? (r : Relay child) : List RelayMove → Option (Relay child)
  | [] => some r
  | move :: rest => (r.step? move).bind (·.run? rest)

def arrived (r : Relay child) (o : Output) : Bytes :=
  (r.delivered.filter (·.1 = o)).flatMap (·.2)

/-- The status of a program that has exited, once all the pumps have finished. -/
def result? (r : Relay child) : Option Int :=
  match r.activity with
  | .running _ => none
  | .exited status =>
    if r.intake.phase = .finished ∧ ∀ o ∈ [Output.stdout, .stderr], (r.outflow o).phase = .finished
    then some status else none

end Relay
end PipelineShell
