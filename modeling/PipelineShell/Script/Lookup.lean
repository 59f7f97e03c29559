import PipelineShell.Script.Shell
import PipelineShell.Script.Source
import PipelineShell.Script.Verb

/-!
# Looking for commands

A command name is a function, a builtin or a program on the search path, whose path is remembered.
-/

namespace PipelineShell.Script.Lookup

open Script.Shell

/-- What the name of a command means. -/
inductive Meaning
  | function (body : Node)
  | verb (verb : Verb)
  | program (index : Option Nat)
  | missing

def standardPath : Chars :=
  "/usr/local/sbin:/usr/local/bin:/usr/sbin:/usr/bin:/sbin:/bin".toList

def candidates (path name : Chars) : List Chars :=
  (Text.splitOn ':' path).map fun directory =>
    if directory.isEmpty then name else directory ++ '/' :: name

def isProgram (s : Shell) (candidate : Chars) : Except Bool Unit :=
  match s.files.entry? s.cwd (Shell.path candidate) with
  | .ok e => if e.isExecutable then .ok () else .error true
  | .error .notFound | .error .notDirectory => .error false
  | .error _ => .error true

/-- Looks for a program from a place on the search path on; if there is none, whether something
stands at one of the paths. -/
def search (s : Shell) (previous : Option Nat) : Nat → (refused : Bool) → List Chars →
    Except Bool Nat
  | _, refused, [] => .error refused
  | index, refused, candidate :: rest =>
    let isFixed := candidate.head? = some '/' && previous.any (index ≤ ·)
    if isFixed && previous ≠ some index then search s previous (index + 1) refused rest
    else if isFixed then .ok index
    else
      match isProgram s candidate with
      | .ok () => .ok index
      | .error there => search s previous (index + 1) (refused || there) rest

def forget (name : Chars) : Run Unit :=
  modify fun s => { s with found := s.found.filter (·.1 ≠ name) }

def remember (name : Chars) (index : Nat) : Run Unit := modify fun s =>
  let isKnown := s.found.any (·.1 = name)
  { s with
    found :=
      if isKnown then s.found.map fun f => if f.1 = name then (name, index, false) else f
      else s.found ++ [(name, index, false)] }

/-- Looks for a program by its name; `path` takes the place of the search path. What keeps it from
being found may be told. -/
def findProgram (name : Chars) (path : Option Chars) (telling : Bool) : Run Meaning := do
  let s ← get
  let known := if path.isSome then none else s.found.lookup name
  match known with
  | some (index, false) => return .program (some index)
  | _ =>
    match search s (known.map (·.1)) 0 false (candidates (path.getD s.searchPath) name) with
    | .ok index =>
      if path.isNone then remember name index
      return .program (some index)
    | .error refused =>
      if path.isNone then forget name
      if telling then
        say (name ++ (if refused then ": Permission denied" else ": not found").toList)
      return .missing

def findKnown (name : Chars) (functions : Bool) : Run Meaning := do
  if name.contains '/' then return .program none
  let s ← get
  match if functions then s.functions.lookup name else none with
  | some body => return .function body
  | none =>
    match Verb.ofName? name with
    | some verb => return .verb verb
    | none => return .missing

/-- Finds out what the name of a command means. Where a program is found behind a function of the
same name is not remembered. -/
def find (name : Chars) (functions : Bool) (path : Option Chars) (telling : Bool) : Run Meaning := do
  match ← findKnown name functions with
  | .missing =>
    let s ← get
    let isHidden := (s.functions.lookup name).isSome
    findProgram name (if isHidden then path <|> some s.searchPath else path) telling
  | meaning => return meaning

def pathOf (path name : Chars) (index : Option Nat) : Chars :=
  match index with
  | none => name
  | some n => ((candidates path name)[n]?).getD name

def describe (inWords : Bool) (path : Option Chars) (name : Chars) : Run Int := do
  let tell (brief : Chars) (words : Chars) : Run Int := do
    putLine (if inWords then name ++ words else brief)
    return 0
  let s ← get
  if (Keyword.texts.lookup name).isSome then tell name " is a shell keyword".toList
  else
    match s.aliases.lookup name with
    | some value =>
      tell ("alias ".toList ++ name ++ '=' :: quote value) (" is an alias for ".toList ++ value)
    | none =>
      let tracked := if path.isNone then s.found.lookup name else none
      let meaning ←
        match tracked with
        | some (index, _) => pure (Meaning.program (some index))
        | none => find name true path false
      let missing : Run Int := do
        if inWords then putLine (name ++ ": not found".toList)
        return 127
      match meaning with
      | .function _ => tell name " is a shell function".toList
      | .verb verb =>
        tell name (" is a ".toList ++ (if verb.isSpecial then "special " else "").toList ++
          "shell builtin".toList)
      | .missing => missing
      | .program none =>
        match s.files.entry? s.cwd (Shell.path name) with
        | .ok _ => tell name (" is ".toList ++ name)
        | .error _ => missing
      | .program (some index) =>
        let known := pathOf (path.getD s.searchPath) name (some index)
        tell known
          ((if tracked.isSome then " is a tracked alias for " else " is ").toList ++ known)

def bucket (name : Chars) : Nat :=
  (name.foldl (fun n c => n + c.toNat) (16 * (name.head?.map Char.toNat).getD 0)) % 31

def list : Run Unit := do
  let s ← get
  let sorted : List (Chars × Nat × Bool) := s.found.mergeSort fun a b => bucket a.1 ≤ bucket b.1
  for (name, index, stale) in sorted do
    putLine (pathOf s.searchPath name (some index) ++ if stale then ['*'] else [])

end PipelineShell.Script.Lookup
