import PipelineShell.Script.Expansion

/-!
# Redirecting

The targets of all redirections of a command are expanded first. Then one after the other is opened,
until one fails. What the descriptors led to before is kept to be restored.
-/

namespace PipelineShell.Script.Redirecting

open Script.Shell Userland

/-- What a redirection leads to, once its words have been expanded. -/
inductive Target
  | file (access : Access) (path : Chars)
  | same (descriptor : Option Nat)
  | document (number : Nat)

abbrev Change := Nat × Target

def descriptor? : Chars → Option (Option Nat)
  | ['-'] => some none
  | [d] => if d.isDigit then some (some (d.toNat - 48)) else none
  | _ => none

def prepare (run : Option Node → Run Chars) : List Redirection → Run (List Change)
  | [] => return []
  | r :: rest => do
    let change : Change ←
      match r with
      | .file descriptor access target => do
        pure (descriptor, .file access (← Expansion.text run false target))
      | .same descriptor target => do
        match descriptor? (← Expansion.text run false target) with
        | some d => pure (descriptor, .same d)
        | none =>
          modify fun s => { s with line := s.readLine }
          fail "Syntax error: Bad fd number".toList
      | .document descriptor number => pure (descriptor, .document number)
    return change :: (← prepare run rest)

def lead (descriptor : Nat) (number : Option Nat) : Run Unit := modify fun s =>
  let others := s.descriptors.filter (·.1 ≠ descriptor)
  { s with
    descriptors :=
      match number with
      | some n => others ++ [(descriptor, n)]
      | none => others }

def refuse {α : Type} (creating : Bool) (path : Chars) (e : SystemError) : Run α :=
  let (verb, missing) : Chars × Chars :=
    if creating then ("create".toList, "Directory nonexistent".toList)
    else ("open".toList, "No such file".toList)
  let reason := if e = .notFound || e = .notDirectory then missing else e.wording
  fail ("cannot ".toList ++ verb ++ [' '] ++ path ++ ": ".toList ++ reason)

def lowest (s : Shell) : Nat :=
  ((List.range (s.descriptors.length + 1)).find? fun d => (s.descriptors.lookup d).isNone).getD 0

def leastKept : Nat := 10

def isCramped (s : Shell) : Bool := s.descriptorLimit ≤ leastKept

def refuseToKeep {α : Type} (descriptor : Nat) : Run α :=
  fail (Chars.ofNat descriptor ++ ": ".toList ++ SystemError.invalid.wording)

def openFile (access : Access) (path : Chars) : Run Nat := do
  let s ← get
  let m := s.machine
  let t := Shell.path path
  let creating := match access with | .read => false | _ => true
  let isRegular :=
    match m.entry? s.descriptors s.cwd t with
    | .ok (some (.file _ _)) => true
    | _ => false
  let open_ := m.openToWrite s.descriptors s.cwd t
  let result : Except SystemError (Nat × Machine) :=
    match access with
    | .read => m.openToRead s.descriptors s.cwd t
    | .both => open_ .update
    | .append => open_ .append
    | .overwrite => open_ .overwrite
    | .write => if s.isOn 'C' && isRegular then .error .exists else open_ .overwrite
  if lowest s ≥ s.descriptorLimit then refuse false path .tooManyFiles
  match result with
  | .error e => refuse creating path e
  | .ok (number, machine) =>
    set { s with machine }
    return number

def openKept (path : Chars) : Run Nat := do
  let number ← openFile .read path
  let s ← get
  if isCramped s then refuseToKeep (lowest s)
  set { s with reserved := number :: s.reserved }
  return number

def letGo (number : Nat) : Run Unit :=
  modify fun s => { s with reserved := s.reserved.erase number }

def makePipe (content : Chars) : Run (Nat × Nat) := do
  let s ← get
  let free := (List.range s.descriptorLimit).filter fun d => (s.descriptors.lookup d).isNone
  if s.descriptorLimit < openLimit && free.length < 2 then fail "Pipe call failed".toList
  onMachine fun m =>
    let (reading, writing, m) := m.addPipe (.ofBytes (Octets.toBytes content))
    ((reading, writing), m)

/-- Lets a descriptor lead to what has been opened for it. If what it has led to before is to be
kept and cannot be, the descriptor is lost, and what has been opened takes the lowest one. -/
def redirect (descriptor : Nat) (fresh : Bool) (number : Nat) : Run Unit := do
  let s ← get
  let taken := lowest s
  let isOpen := (s.descriptors.lookup descriptor).isSome
  if isCramped s && isOpen then
    if fresh then lead taken (some number)
    lead descriptor none
    refuseToKeep descriptor
  lead descriptor (some number)

def perform (run : Option Node → Run Chars) (change : Change) : Run Unit := do
  let (descriptor, target) := change
  match target with
  | .file access path => redirect descriptor true (← openFile access path)
  | .same none => lead descriptor none
  | .same (some d) =>
    if d ≠ descriptor then
      match (← get).descriptors.lookup d with
      | some number => redirect descriptor false number
      | none => fail (Chars.ofNat d ++ ": Bad file descriptor".toList)
  | .document n =>
    let document := ((← get).documents[n]?).getD ⟨[], false⟩
    let t ← Expansion.document run document
    let (number, _) ← makePipe t
    redirect descriptor true number

/-- What descriptors led to, and what the shell kept for itself. -/
structure Saved where
  descriptors : List (Nat × Option Nat) := []
  reserved : List Nat := []

def save (changes : List Change) : Run Saved := do
  let s ← get
  let saved : Saved := ⟨changes.map fun c => (c.1, s.descriptors.lookup c.1), s.reserved⟩
  if !changes.isEmpty then
    let kept : List Nat := saved.descriptors.filterMap fun d => d.2
    set { s with reserved := kept ++ s.reserved }
  return saved

def restore (saved : Saved) : Run Unit := do
  for (descriptor, number) in saved.descriptors do lead descriptor number
  modify fun s => { s with reserved := saved.reserved }

/-- Makes changes in order, behind so many that have been made; how many there are then comes out,
and whether those are all. What has been made is undone if something else stops the shell. -/
def performAll (run : Option Node → Run Chars) (saved : Saved) :
    (done : Nat) → List Change → Run (Nat × Bool)
  | done, [] => return (done, true)
  | done, change :: rest => do
    match ← Shell.attempt (perform run change) with
    | none => performAll run saved (done + 1) rest
    | some .failed => return (done, false)
    | some stop => do
      restore saved
      throw stop

/-- Makes changes in order; whether all could be made comes out. If not, those that were made are
undone. -/
def attempt (run : Option Node → Run Chars) (saved : Saved) (changes : List Change) : Run Bool := do
  let (done, isComplete) ← performAll run saved 0 changes
  if !isComplete then restore { saved with descriptors := saved.descriptors.take done }
  return isComplete

end PipelineShell.Script.Redirecting
