import PipelineShell.Script.Arithmetic
import PipelineShell.Script.Tree
import PipelineShell.Script.Variable
import PipelineShell.Userland.Basic

/-!
# A running shell

Arguments, variables, functions, directory and open files of a shell that runs a script. A subshell
starts with a copy of them.
-/

namespace PipelineShell.Script

open Userland

/-- What is passed over. -/
inductive Skip
  | nothing
  | break (loops : Nat)
  | continue (loops : Nat)
  | function (given : Bool)
  deriving DecidableEq, Repr

/-- A command in the background. -/
structure Job where
  number : Nat
  processes : List (Nat × Option Int)
  waited : Bool := false
  deriving DecidableEq, Repr

namespace Job

def isRunning (j : Job) : Bool := j.processes.any (·.2.isNone)

def status? (j : Job) : Option Int :=
  if j.isRunning then none else j.processes.getLast?.bind (·.2)

def process (j : Job) : Nat := (j.processes.getLast?.map (·.1)).getD 0

def note (j : Job) (number : Nat) (ending : Int) : Job :=
  { j with processes := j.processes.map fun p => if p.1 = number then (number, some ending) else p }

end Job

/-- A shell. -/
structure Shell where
  name : Chars
  speaker : Option Chars := none
  line : Nat := 1
  readLine : Nat := 1
  args : List Chars := []
  bindings : Variables := []
  functions : List (Chars × Node) := []
  aliases : List (Chars × Chars) := []
  /-- Where the programs that were found stand on the search path, and whether that has to be looked
  up again. -/
  found : List (Chars × Nat × Bool) := []
  status : Int := 0
  outputStatus : Int := 0
  cwd : Text := [.char '/']
  shown : Chars := ['/']
  descriptors : List (Nat × Nat) := []
  reserved : List Nat := []
  flags : List Char := []
  unlettered : List Chars := []
  actions : List (Nat × Chars) := []
  ignored : List Nat := []
  mask : Mode := 0o022
  limits : List (Char × Option Nat × Option Nat) := []
  functionDepth : Nat := 0
  loopDepth : Nat := 0
  frames : List (List (Chars × Option Variable)) := []
  savedFlags : List (List (List Char)) := []
  optionIndex : Nat := 1
  optionLetter : Option Nat := none
  root : Nat := 1
  self : Nat := 1
  parent : Nat := 0
  lastBackground : Nat := 0
  isSubshell : Bool := false
  tracing : Bool := false
  machine : Machine
  documents : Array Document := #[]
  jobs : List Job := []
  buffer : List Chars := []
  skip : Skip := .nothing
  saved : Option Int := none
  pending : List Nat := []

/-- Why a shell stops. -/
inductive Stop
  | failed
  | exited
  | ended
  | killed (signal : Nat)
  deriving DecidableEq, Repr

/-- The work of a shell. What comes of it, or why the shell stops, is handed to what comes after it,
together with the shell. -/
def Run (α : Type) : Type := Shell → (Except Stop α → Shell → Step) → Step

namespace Run

@[inline] def andThen {α β : Type} (x : Run α) (f : α → Run β) : Run β := fun s k =>
  x s fun r s =>
    match r with
    | .ok a => f a s k
    | .error stop => k (.error stop) s

@[inline] def orElse {α : Type} (x : Run α) (f : Stop → Run α) : Run α := fun s k =>
  x s fun r s =>
    match r with
    | .ok a => k (.ok a) s
    | .error stop => f stop s k

@[inline] def andFinally {α β : Type} (x : Run α) (f : Option α → Run β) : Run (α × β) :=
  fun s k =>
    x s fun r s =>
      match r with
      | .ok a => f (some a) s fun r s => k (r.map (a, ·)) s
      | .error stop => f none s fun r s =>
        match r with
        | .ok _ => k (.error stop) s
        | .error stop => k (.error stop) s

instance : Monad Run where
  pure a := fun s k => k (.ok a) s
  bind := andThen

instance : MonadStateOf Shell Run where
  get := fun s k => k (.ok s) s
  set s := fun _ k => k (.ok ()) s
  modifyGet f := fun s k =>
    let (a, s) := f s
    k (.ok a) s

instance : MonadExceptOf Stop Run where
  throw stop := fun s k => k (.error stop) s
  tryCatch := orElse

instance : MonadFinally Run where
  tryFinally' := andFinally

end Run

abbrev Host := Chars → Call → Machine → Except SystemError Turn

namespace Shell

def isOn (s : Shell) (flag : Char) : Bool := s.flags.contains flag

def ignores (s : Shell) (signal : Nat) : Bool :=
  s.ignored.contains signal || s.actions.lookup signal = some []

def hasActions (s : Shell) : Bool := s.actions.any (!·.2.isEmpty)

def value? (s : Shell) (name : Chars) : Option Chars := s.bindings.value? name

def separators (s : Shell) : Option Chars := s.value? "IFS".toList

def searchPath (s : Shell) : Chars := (s.value? "PATH".toList).getD []

def path (t : Chars) : Text := Octets.toText t

def files (s : Shell) : FileSystem := s.machine.files

def isName : Chars → Bool
  | [] => false
  | c :: rest => (c.isAlpha || c = '_') && rest.all fun c => c.isAlphanum || c = '_'

def die {α : Type} (signal : Nat) : Run α := throw (.killed signal)

def receive (signal : Nat) : Run Unit := do
  let s ← get
  if Signal.isCertain signal then die signal
  if s.ignores signal then return
  match s.actions.lookup signal with
  | some _ => set { s with pending := s.pending.filter (· ≠ signal) ++ [signal] }
  | none => if !Signal.isHarmless signal then die signal

def receiveAll : Run Unit := do
  let s ← get
  let sent := ((s.machine.process? s.self).map (·.pending)).getD []
  if !sent.isEmpty then
    set { s with machine := s.machine.update s.self fun p => { p with pending := [] } }
    for signal in sent do receive signal

/-! ### Turns -/

def silenced (s : Shell) : List Nat :=
  s.ignored ++ (s.actions.filter fun a => a.2.isEmpty && a.1 ≠ 0).map (·.1)

def standing (s : Shell) : Process :=
  { number := s.self, parent := s.parent
    holds := s.descriptors.map (·.2) ++ s.reserved, ignored := s.silenced
    caught := (s.actions.filter fun a => !a.2.isEmpty && a.1 ≠ 0).map (·.1) }

def publish (s : Shell) : Machine :=
  s.machine.update s.self fun p => { s.standing with pending := p.pending }

def task {α : Type} (t : Userland.Task α) : Run α := fun s k =>
  let m := s.publish
  let s := { s with machine := {} }
  t m fun a m => k (.ok a) { s with machine := m }

def pause : Run Unit := task Userland.Task.pause

def onMachine {α : Type} (f : Machine → α × Machine) : Run α := fun s k =>
  let m := s.machine
  let s := { s with machine := {} }
  let (a, m) := f m
  k (.ok a) { s with machine := m }

def fileLimit (s : Shell) : Option Nat := (s.limits.lookup 'f').bind (·.1)

def openLimit : Nat := 1048576

def descriptorLimit (s : Shell) : Nat :=
  match s.limits.lookup 'n' with
  | some (some n, _) => n
  | _ => openLimit

def writeTo (number : Option Nat) (t : Chars) : Run Bool := do
  if t.isEmpty then return true
  match number with
  | none => return false
  | some number =>
    let limit := (← get).fileLimit
    match ← task (Userland.Task.write limit number (Octets.toBytes t)) with
    | none => return true
    | some cause =>
      match signalOf cause with
      | some signal => receive signal
      | none => pure ()
      return false

def write (descriptor : Nat) (t : Chars) : Run Bool := do
  writeTo ((← get).descriptors.lookup descriptor) t

def put (t : Chars) : Run Unit :=
  if t.isEmpty then pure () else modify fun s => { s with buffer := t :: s.buffer }

def putLine (t : Chars) : Run Unit := put (t ++ ['\n'])

def flush : Run Bool := do
  let t := (← get).buffer.reverse.flatten
  modify fun s => { s with buffer := [] }
  write 1 t

def say (message : Chars) : Run Unit := do
  let s ← get
  let speaker :=
    match s.speaker with
    | some t => t ++ ": ".toList
    | none => []
  let _ ← write 2 (s.name ++ ": ".toList ++ Chars.ofNat s.line ++ ": ".toList ++ speaker ++ message ++
    ['\n'])

def fail {α : Type} (message : Chars) : Run α := do
  modify fun s => { s with status := 2 }
  say message
  throw .failed

def badNumber {α : Type} (t : Chars) : Run α := fail ("Illegal number: ".toList ++ t)

def number (t : Chars) : Run Nat :=
  match Arithmetic.spelled? 10 t with
  | some n => if 0 ≤ n && n ≤ 2147483647 then return n.toNat else badNumber t
  | none => badNumber t

def noticeValue (name : Chars) (value : Option Chars) : Run Unit := do
  if name = "PATH".toList then modify fun s => { s with found := [] }
  match value with
  | some value =>
    if name = "OPTIND".toList then
      let n ← number value
      modify fun s => { s with optionIndex := if n = 0 then 1 else n, optionLetter := none }
  | none => return

def setVariable (name : Chars) (value : Option Chars) (exported readonly : Bool) : Run Unit := do
  if !isName name then fail (name.takeWhile (· ≠ '=') ++ ": bad variable name".toList)
  let s ← get
  if s.bindings.isReadonly name then fail (name ++ ": is read only".toList)
  noticeValue name value
  modify fun s =>
    { s with bindings := s.bindings.set name value (exported || s.isOn 'a') readonly }

def assign (name value : Chars) : Run Unit := setVariable name (some value) false false

def unsetVariable (name : Chars) : Run Unit := do
  if !isName name then fail (name.takeWhile (· ≠ '=') ++ ": bad variable name".toList)
  if (← get).bindings.isReadonly name then fail (name ++ ": is read only".toList)
  if name = "PATH".toList then modify fun s => { s with found := [] }
  modify fun s => { s with bindings := s.bindings.unset name }

def makeLocal (name : Chars) (value : Option Chars) (exported : Bool) : Run Unit := do
  let s ← get
  let old := s.bindings.find? name
  match value, old with
  | none, some _ => pure ()
  | value, _ => setVariable name value exported false
  modify fun t =>
    { t with
      frames := match t.frames with
        | frame :: rest => ((name, old) :: frame) :: rest
        | [] => [] }

def leaveFrame : Run Unit := do
  let s ← get
  match s.frames with
  | [] => return
  | frame :: rest =>
    let restore (vs : Variables) : Chars × Option Variable → Variables
      | (name, some v) => vs.put name v
      | (name, none) => vs.erase name
    let hasPath := frame.any (·.1 = "PATH".toList)
    set { s with
      frames := rest
      bindings := frame.foldl restore s.bindings
      found := if hasPath then [] else s.found
      flags := match s.savedFlags with
        | (flags :: more) :: _ => (flags :: more).getLast?.getD s.flags
        | _ => s.flags
      savedFlags := s.savedFlags.drop 1 }

/-- Forgets the first command in the background whose end has been waited for, unless a number
before its own is free; the length of the row bounds the steps. -/
def forgetWaited (jobs : List Job) : Nat → (number : Nat) → List Job
  | 0, _ => jobs
  | fuel + 1, n =>
    match jobs.find? (·.number = n) with
    | none => jobs
    | some j =>
      if j.waited && !j.isRunning then jobs.filter (·.number ≠ n)
      else forgetWaited jobs fuel (n + 1)

def forkRounds : Nat := 10

def execRounds : Nat := 100

/-- Starts a process, which is arranged to begin from what this shell is, and does some work; its
number comes out. -/
def spawn (arrange : Shell → Shell) (work : Run Int) : Run Nat := fun s k =>
  let n := s.machine.nextProcess
  let m := s.publish
  let s := { s with machine := {}, jobs := forgetWaited s.jobs s.jobs.length 1 }
  let c := arrange { s with
    self := n, parent := s.self, isSubshell := true
    actions := s.actions.filter (·.2.isEmpty)
    jobs := [], buffer := [], pending := [], saved := none }
  let m := { m with nextProcess := n + 1, processes := m.processes ++ [c.standing] }
  .started n forkRounds m
    (fun m => work { c with machine := m } fun r c => .ended (r.toOption.getD 0) c.machine)
    fun m => k (.ok n) { s with machine := m }

def become {α : Type} (call : Call) (program : Turn) : Run α := fun s _ =>
  let m := s.publish
  Userland.Task.rest execRounds m fun _ m =>
    program (m.update call.process fun p =>
      { call.standing with parent := p.parent, pending := p.pending })

def attempt {α : Type} (work : Run α) : Run (Option Stop) :=
  tryCatch
    (do
      let _ ← work
      return none)
    fun stop => return some stop

def iterate {σ : Type} (step : σ → Run (Bool × σ)) : Nat → σ → Run σ
  | 0, x => return x
  | n + 1, x => do
    match ← step x with
    | (true, x) => iterate step n x
    | (false, x) => return x

def rounds : Nat := 1000000000

def quote (t : Chars) : Chars :=
  go (t.length + 1) t
where
  go : Nat → Chars → Chars
    | 0, _ => []
    | fuel + 1, t =>
      let piece := t.takeWhile (· ≠ '\'')
      let behind := t.drop piece.length
      let quotes := behind.takeWhile (· = '\'')
      let rest := behind.drop quotes.length
      ['\''] ++ piece ++ ['\''] ++
        if quotes.isEmpty then []
        else ['"'] ++ quotes ++ ['"'] ++ if rest.isEmpty then [] else go fuel rest

example : quote "it's".toList = "'it'\"'\"'s'".toList := by decide

end Shell
end PipelineShell.Script
