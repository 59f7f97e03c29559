import Mathlib.Logic.Function.Basic
import PipelineShell.Execution.Relay
import PipelineShell.Execution.Together

/-!
# Networks

The processes of `_run_shell_group` with the pipes between them and the pumps. They take turns in
any order.
-/

namespace PipelineShell

/-- What an output of one of several programs is joined to. -/
def Ends.outlet? (ends : List Ends) (stage : Nat) (o : Output) : Option OutputEnd :=
  ends[stage]?.map (·.outlet o)

/-- The processes of `_run_shell_group`, by their numbers, with what they are joined to. What the
first reads is fed to it; any other reads what the one before it writes. -/
structure Network (ends : List Ends) (child : Nat → Child) where
  activity : (stage : Nat) → Activity (child stage).Memory
  intake : Intake
  outflow : Nat → Output → Outflow
  /-- What each program has read. -/
  taken : Nat → Bytes := fun _ => []
  /-- Whether a program has read the end of its input. -/
  ended : Nat → Bool := fun _ => false
  /-- What has come out of the network into open files and through its pumps. -/
  pieces : List Piece := []

/-- Whose turn it is, and how much may be moved in it. -/
inductive NetworkMove
  | program (stage amount : Nat)
  | pump (pump : GroupPump) (amount : Nat)
  /-- The shell closes the pipe of a program behind which none was started. -/
  | close (stage : Nat)
  deriving DecidableEq, Repr

namespace Network

variable {ends : List Ends} {child : Nat → Child}

/-- Processes that have just been started. -/
def start (ends : List Ends) (child : Nat → Child) (input : Bytes) (feed : Capacity)
    (pipes : Nat → Output → Capacity) : Network ends child where
  activity stage := .running (child stage).start
  intake := { source := .ofBytes input, phase := .reading, pipe := .empty feed }
  outflow stage o := { pipe := .empty (pipes stage o) }

def withIntake (net : Network ends child) (intake : Intake) : Network ends child :=
  { net with intake }

/-- Sets an output of a program, and notes what has been brought out of it. -/
def withOutflow (net : Network ends child) (stage : Nat) (o : Output) (f : Outflow)
    (brought : List Bytes) : Network ends child :=
  { net with
    outflow := fun i p => if i = stage ∧ p = o then f else net.outflow i p
    pieces := net.pieces ++ brought.map (⟨stage, o, ·⟩) }

def goOn (net : Network ends child) (stage : Nat) (activity : Activity (child stage).Memory) :
    Network ends child :=
  { net with activity := Function.update net.activity stage activity }

/-- Notes what a program has read. -/
def note (net : Network ends child) (stage size : Nat) : Option Bytes → Network ends child
  | none => net
  | some data =>
    { net with
      taken := Function.update net.taken stage (net.taken stage ++ data)
      ended := Function.update net.ended stage (net.ended stage || Conduit.isEnd size data) }

def read? (net : Network ends child) (size amount : Nat) :
    (stage : Nat) → Option (Option Bytes × Network ends child)
  | 0 => (net.intake.read? size amount).map fun (answer, intake) => (answer, net.withIntake intake)
  | stage + 1 =>
    ((net.outflow stage .stdout).read? size amount).map fun (answer, f) =>
      (answer, net.withOutflow stage .stdout f [])

/-- A write, which goes into an open file at once. -/
def write? (net : Network ends child) (stage : Nat) (o : Output) (data : Bytes) (amount : Nat) :
    Option (Option Nat × Network ends child) :=
  let f := net.outflow stage o
  match Ends.outlet? ends stage o with
  | some (.file _) =>
    if f.pipe.writable then
      some (some data.length,
        net.withOutflow stage o { f with written := f.written ++ data } [data])
    else some (none, net)
  | _ => (f.write? data amount).map fun (answer, f) => (answer, net.withOutflow stage o f [])

def shutInput (net : Network ends child) : (stage : Nat) → Network ends child
  | 0 => net.withIntake net.intake.shut
  | stage + 1 => net.withOutflow stage .stdout (net.outflow stage .stdout).leave []

def shutOutput (net : Network ends child) (stage : Nat) (o : Output) : Network ends child :=
  net.withOutflow stage o (net.outflow stage o).shut []

/-- A turn of a program, unless it waits. When it exits, all its ends are closed. -/
def proceed? (net : Network ends child) (stage amount : Nat) : Option (Network ends child) :=
  match net.activity stage with
  | .exited _ => none
  | .running memory =>
    match (child stage).wish memory with
    | .read size next =>
      (net.read? size amount stage).map fun (answer, net) =>
        (net.note stage size answer).goOn stage (.running (next answer))
    | .write o data next =>
      (net.write? stage o data amount).map fun (answer, net) =>
        net.goOn stage (.running (next answer))
    | .closeInput next => some ((net.shutInput stage).goOn stage (.running next))
    | .closeOutput o next => some ((net.shutOutput stage o).goOn stage (.running next))
    | .exit status =>
      some (((net.goOn stage (.exited status)).shutInput stage).shutOutput stage .stdout
        |>.shutOutput stage .stderr)

def step? (net : Network ends child) : NetworkMove → Option (Network ends child)
  | .program stage amount => if stage < ends.length then net.proceed? stage amount else none
  | .pump .feed amount => (net.intake.pump? amount).map net.withIntake
  | .pump (.drain stage o) amount =>
    if Ends.outlet? ends stage o = some .drained then
      ((net.outflow stage o).pump? amount).map fun (chunks, f) => net.withOutflow stage o f chunks
    else none
  | .close stage =>
    if Ends.outlet? ends stage .stdout = some .pipe ∧ stage + 1 = ends.length then
      some (net.withOutflow stage .stdout (net.outflow stage .stdout).leave [])
    else none

def run? (net : Network ends child) : List NetworkMove → Option (Network ends child)
  | [] => some net
  | move :: rest => (net.step? move).bind (·.run? rest)

/-- All programs have exited, and all pumps have finished. -/
structure Done (net : Network ends child) : Prop where
  exited : ∀ stage < ends.length, ∃ status, net.activity stage = .exited status
  fed : net.intake.phase = .finished
  drained : ∀ stage o, Ends.outlet? ends stage o = some .drained →
    (net.outflow stage o).phase = .finished

end Network
end PipelineShell
