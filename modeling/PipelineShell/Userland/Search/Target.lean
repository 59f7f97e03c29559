import PipelineShell.Script.Pattern
import PipelineShell.Userland.Search.Options

/-!
# Which files are searched

Files, standard input, or directories with their files; the last pattern that matches a name
decides.
-/

namespace PipelineShell.Userland.Search

/-- What is to be searched. -/
inductive Target
  | standard
  | file (path : Chars)
  | loop (path : Chars)
  deriving DecidableEq

def endsAs (pattern : Chars) : (path : Chars) → Bool
  | [] => false
  | c :: rest =>
    (c = '/' && rest.head? ≠ some '/' && Script.Pattern.isMatch pattern rest) ||
      endsAs pattern rest

def isNamedBy (pattern path : Chars) : Bool :=
  Script.Pattern.isMatch pattern path || endsAs pattern path

def Request.admits (k : Request) (named : Chars → Bool) : Bool :=
  match (k.filters.filter fun f => named f.2).getLast?, k.filters with
  | some f, _ => f.1
  | none, f :: _ => !f.1
  | none, [] => true

def pathIn (name child : Chars) : Chars :=
  if name = [] || name.getLast? = some '/' then name ++ child else name ++ '/' :: child

def Request.below (k : Request) (fs : FileSystem) : (fuel : Nat) → (above : List Place) →
    (name : Chars) → Place → List Target
  | 0, _, _, _ => []
  | fuel + 1, above, name, place =>
    (fs.children place).flatMap fun child =>
      let octets := Octets.ofBytes child
      let path := pathIn name octets
      let here := place ++ [child]
      let goDown (place' : Place) : List Target :=
        if k.avoided.any (Script.Pattern.isMatch · octets) then []
        else if (place :: above).contains place' then [.loop path]
        else k.below fs fuel (place :: above) path place'
      let take : List Target :=
        if k.admits (Script.Pattern.isMatch · octets) then [.file path] else []
      match fs.get? here with
      | some (.directory _) => goDown here
      | some (.file _ _) => take
      | some (.link _) =>
        if !k.follows then []
        else
          match fs.locate [.char '/'] (.char '/' :: Place.text here) with
          | .error _ => take
          | .ok place' =>
            match fs.get? place' with
            | some (.directory _) => goDown place'
            | some (.file _ _) | none => take
            | some _ => []
      | _ => []

def Request.targetsOf (k : Request) (c : Call) (fs : FileSystem) (operand : Chars) : List Target :=
  if operand = ['-'] then [.standard]
  else
    let byName : List Target := if k.admits (isNamedBy · operand) then [.file operand] else []
    match fs.locate c.cwd (Octets.toText operand) with
    | .error _ => [.file operand]
    | .ok place =>
      match fs.get? place with
      | none => [.file operand]
      | some (.directory _) =>
        if k.directories = .skip then []
        else if k.avoided.any (isNamedBy · operand) then []
        else if k.directories = .recurse then
          k.below fs (fs.entries.length + 1) [] operand place
        else [.file operand]
      | some (.device (.opened _)) => byName
      | some (.device _) => if k.skipsDevices then [] else byName
      | some _ => byName

def Request.targets (k : Request) (c : Call) (fs : FileSystem) (operands : List Chars) :
    List Target :=
  match operands with
  | [] =>
    if k.directories = .recurse then
      match fs.locate c.cwd [.char '.'] with
      | .ok place => k.below fs (fs.entries.length + 1) [] [] place
      | .error _ => [.file ['.']]
    else [.standard]
  | operands => operands.flatMap (k.targetsOf c fs)

def Request.isNamed (k : Request) (c : Call) (fs : FileSystem) (operands : List Chars) : Bool :=
  let goesDown : Bool := operands.isEmpty || operands.any fun operand =>
    fs.isDirectory c.cwd (Octets.toText operand)
  k.named.getD (operands.length > 1 || (k.directories = .recurse && goesDown))

end PipelineShell.Userland.Search
