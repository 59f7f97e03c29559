import PipelineShell.Failure
import PipelineShell.FileSystem.Handle
import PipelineShell.Line.Pipeline
import PipelineShell.Session

/-!
# Programs

What the shell gets from the system with a program, as a parameter: whether it is started, and what
started programs do with the ends that they were given.
-/

namespace PipelineShell

/-- What a program is started with. -/
structure Invocation where
  executable : Text
  argv : List Text
  cwd : Text
  env : Environment
  /-- The files that are held open for writing when the program is started. -/
  held : List Place := []
  deriving DecidableEq, Repr

/-- What the input of a program is joined to. -/
inductive InputEnd
  | fed
  | pipe
  deriving DecidableEq, Repr

/-- What an output of a program is joined to. -/
inductive OutputEnd
  | file (handle : Handle)
  | pipe
  | drained
  deriving DecidableEq, Repr

/-- What the three ends of a program are joined to. -/
structure Ends where
  input : InputEnd := .fed
  output : OutputEnd := .drained
  errors : OutputEnd := .drained
  deriving DecidableEq, Repr

def Ends.outlet (e : Ends) : Output → OutputEnd
  | .stdout => e.output
  | .stderr => e.errors

/-- Some bytes that one of several programs writes at once. -/
structure Piece where
  stage : Nat
  output : Output
  data : Bytes
  deriving DecidableEq, Repr

/-- All bytes of some pieces that were written to one of the outputs, in order. -/
def Piece.bytes (o : Output) (pieces : List Piece) : Bytes :=
  (pieces.filter (·.output = o)).flatMap Piece.data

/-- What has become of programs that ran side by side: what came out of the pipes that the shell
empties, the status of each program, and the files they leave. The status is negative for a program
that was killed, by the number of the signal. -/
structure Effect where
  output : List Piece
  statuses : List Int
  files : FileSystem
  deriving DecidableEq, Repr

def Effect.bytes (e : Effect) (o : Output) : Bytes := Piece.bytes o e.output

def Effect.status (e : Effect) (stage : Nat) : Int := e.statuses[stage]?.getD 0

/-- The programs of a system: how each starts, and what those do that run side by side, each with
its ends. The bytes are those that the shell has for the first of them. -/
structure Programs where
  Process : Type
  start : Invocation → FileSystem → Except SystemError Process
  run : List (Process × Ends) → Bytes → FileSystem → Effect

/-- Why a program is not started. -/
inductive Refusal
  | system (cause : SystemError)
  /-- The system cannot be given what the program is to be started with. -/
  | unfit (failure : Failure)
  deriving DecidableEq, Repr

namespace Invocation

def nul? (t : Text) : Option Failure := if t.contains '\x00' then some .embeddedNul else none

def unencodable? (t : Text) : Option Failure :=
  (Utf8.unencodable? Surrogate.isByte 0 t).map .unencodable

/-- What is wrong with a variable before anything is said of NUL characters. -/
def variableFault? (v : Text × Text) : Option Failure :=
  (unencodable? v.1).or
    ((if v.1.contains '=' then some .illegalVariableName else none).or (unencodable? v.2))

/-- What is found wrong first when an invocation is handed over. All variables and the path of the
program are encoded before the rest is looked at. -/
def fault? (i : Invocation) : Option Failure :=
  (i.env.findSome? variableFault?).or <| (Text.unfit? i.executable).or <|
    (i.argv.findSome? Text.unfit?).or <|
    (i.env.findSome? fun v => (nul? v.1).or (nul? v.2)).or (Text.unfit? i.cwd)

end Invocation

def Programs.launch (programs : Programs) (i : Invocation) (fs : FileSystem) :
    Except Refusal programs.Process :=
  match i.fault? with
  | some failure => .error (.unfit failure)
  | none =>
    match programs.start i fs with
    | .error e => .error (.system e)
    | .ok process => .ok process

end PipelineShell
