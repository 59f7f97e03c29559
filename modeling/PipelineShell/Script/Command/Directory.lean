import PipelineShell.Path
import PipelineShell.Script.Command.Letters

/-!
# Commands for directories

`cd` changes the directory and `pwd` tells it. The directory is shown by the path on which it was
entered, unless the physical path is asked for.
-/

namespace PipelineShell.Script.Command

open Script.Shell

def isPhysical (options : List (Char × Chars)) : Bool :=
  options.foldl (fun _ o => o.1 = 'P') false

def pathOf (place : Place) : Chars := '/' :: Text.join ['/'] (place.map Octets.ofBytes)

def enter (cwd : Text) (shown : Chars) : Run Unit := do
  let old := (← get).shown
  setVariable "OLDPWD".toList (some old) true false
  modify fun s =>
    { s with cwd, shown, found := s.found.map fun (name, index, _) => (name, index, true) }
  setVariable "PWD".toList (some shown) true false

def change (physical : Bool) (target : Chars) : Run Bool := do
  let s ← get
  let logical := Octets.ofText (Path.absolute (path s.shown) (path target))
  match s.files.locate s.cwd (path (if physical then target else logical)) with
  | .error _ => return false
  | .ok place =>
    if !(s.files.get? place).any Entry.isDirectory then return false
    let cwd := pathOf place
    enter (path cwd) (if physical then cwd else logical)
    return true

def isRooted (target : Chars) : Bool :=
  match target with
  | '/' :: _ | ['.'] | '.' :: '/' :: _ | ['.', '.'] | '.' :: '.' :: '/' :: _ => true
  | _ => false

def lookFor (s : Shell) (target : Chars) : List Chars → Option (Chars × Bool)
  | [] => none
  | directory :: rest =>
    let candidate := if directory.isEmpty then target else directory ++ '/' :: target
    if s.files.isDirectory s.cwd (path candidate) then some (candidate, !directory.isEmpty)
    else lookFor s target rest

def cd (args : List Chars) : Run Int := do
  let (options, args) ← readOptions [('L', false), ('P', false)] args
  let physical := isPhysical options
  let s ← get
  let (target, told) : Chars × Bool :=
    match args with
    | [] => ((s.value? "HOME".toList).getD [], false)
    | ['-'] :: _ => ((s.value? "OLDPWD".toList).getD [], true)
    | target :: _ => (target, false)
  let target' := if target.isEmpty then ['.'] else target
  let found : Option (Chars × Bool) :=
    if isRooted target then none
    else
      match s.value? "CDPATH".toList with
      | none => none
      | some directories => lookFor s target' (Text.splitOn ':' directories)
  let (candidate, telling) := found.getD (target', false)
  if !(← change physical candidate) then fail ("can't cd to ".toList ++ target')
  if told || telling then putLine (← get).shown
  return 0

def pwd (args : List Chars) : Run Int := do
  let (options, _) ← readOptions [('L', false), ('P', false)] args
  let s ← get
  if !isPhysical options then putLine s.shown
  else if s.files.isDirectory [.char '/'] s.cwd then putLine (Octets.ofText s.cwd)
  else
    say ("getcwd() failed: ".toList ++ SystemError.notFound.wording)
    putLine []
  return 0

end PipelineShell.Script.Command
