import PipelineShell.FileSystem.Content
import PipelineShell.FileSystem.Error
import PipelineShell.Path
import PipelineShell.Text.System

/-!
# File systems

What stands at each place, a place being the names on the way from the root. A path is followed name
by name, through at most forty links; a path that ends in a slash asks for a directory.
-/

namespace PipelineShell

/-- A place in the tree of directories: the names from the root down. -/
abbrev Place := List Bytes

def Place.named (names : List Text) : Place := names.map Text.stored

def Place.text (place : Place) : Text := Text.join [.char '/'] (place.map Text.ofStored)

/-- The devices that programs read and write like files. -/
inductive Device
  | null
  | zero
  | full
  | terminal
  | opened (descriptor : Nat)
  deriving DecidableEq, Repr

/-- The permissions of a file: three octal digits, for its owner, its group and all others, of
which the bits with value 1 allow it to be executed. -/
abbrev Mode := Nat

namespace Mode

def isExecutable (m : Mode) : Bool := m &&& 0o111 != 0

def plain : Mode := 0o644

def program : Mode := 0o755

def directory : Mode := 0o755

end Mode

/-- What stands at a place. -/
inductive Entry
  | directory (mode : Mode)
  | file (content : Content) (mode : Mode)
  | link (target : Text)
  | device (kind : Device)
  /-- A program of the system, which is executed but neither read nor written. -/
  | program (name : Text)
  deriving DecidableEq, Repr

def Entry.isExecutable : Entry → Bool
  | .file _ mode => mode.isExecutable
  | .program _ => true
  | _ => false

def Entry.isDirectory : Entry → Bool
  | .directory _ => true
  | _ => false

def Entry.mode? : Entry → Option Mode
  | .file _ mode | .directory mode => some mode
  | _ => none

def Entry.withMode (mode : Mode) : Entry → Entry
  | .file content _ => .file content mode
  | .directory _ => .directory mode
  | e => e

/-- The entries of a file system by place. The root is a directory and needs no entry. -/
structure FileSystem where
  entries : List (Place × Entry) := []
  /-- The directories whose entries the user is not allowed to list. -/
  unlisted : List Place := []
  deriving DecidableEq, Repr

namespace FileSystem

def find (place : Place) : List (Place × Entry) → Option Entry
  | [] => none
  | (p, e) :: rest => if p = place then some e else find place rest

def get? (fs : FileSystem) (place : Place) : Option Entry :=
  if place = [] then some (.directory Mode.directory) else find place fs.entries

/-- Replaces the entry of a place in a row of entries, or adds it at the end. -/
def put (place : Place) (entry : Entry) : List (Place × Entry) → List (Place × Entry)
  | [] => [(place, entry)]
  | (p, e) :: rest => if p = place then (p, entry) :: rest else (p, e) :: put place entry rest

def set (fs : FileSystem) (place : Place) (entry : Entry) : FileSystem :=
  { fs with entries := put place entry fs.entries }

def erase (fs : FileSystem) (place : Place) : FileSystem :=
  { fs with entries := fs.entries.filter (·.1 ≠ place) }

theorem find_put (place q : Place) (entry : Entry) (es : List (Place × Entry)) :
    find q (put place entry es) = if q = place then some entry else find q es := by
  induction es with
  | nil => grind [put, find]
  | cons pe rest ih =>
    obtain ⟨p, e⟩ := pe
    by_cases hp : p = place <;> by_cases hq : p = q <;> grind [put, find]

theorem get?_set (fs : FileSystem) (place q : Place) (entry : Entry) (h : place ≠ []) :
    (fs.set place entry).get? q = if q = place then some entry else fs.get? q := by
  unfold get? set
  by_cases hq : q = []
  · subst hq; simp [h.symm]
  · simp [hq, find_put]

def children (fs : FileSystem) (place : Place) : List Bytes :=
  fs.entries.filterMap fun (p, _) =>
    match p.getLast? with
    | some name => if p = place ++ [name] then some name else none
    | none => none

def maxNameBytes : Nat := 255

def maxPathBytes : Nat := 4095

def maxLinks : Nat := 40

/-- The names to follow for a path. A slash at the end counts as a last name that is empty. -/
def steps (path : Text) : List Text :=
  (Path.names path).filter (· ≠ []) ++ (if path.getLast? = some (.char '/') then [[]] else [])

/-- Follows names from a place, with `expand` to go on from the target of a link. What comes out
stands in a directory, but need not exist. With `making`, what is looked for is to be made as a file
if it does not exist. -/
def walkWith (fs : FileSystem) (making : Bool)
    (expand : Place → List Text → Except SystemError Place) :
    Place → List Text → Except SystemError Place
  | here, [] => .ok here
  | here, name :: rest =>
    match fs.get? here with
    | none => .error .notFound
    | some (.directory _) =>
      if name = [] ∨ name = [.char '.'] then walkWith fs making expand here rest
      else if name = [.char '.', .char '.'] then walkWith fs making expand here.dropLast rest
      else if making ∧ rest = [[]] then .error .isDirectory
      else if (Text.stored name).length > maxNameBytes then .error .nameTooLong
      else
        match fs.get? (here ++ [Text.stored name]) with
        | none => if rest.isEmpty then .ok (here ++ [Text.stored name]) else .error .notFound
        | some (.link target) =>
          expand (if Path.isAbsolute target then [] else here) (steps target ++ rest)
        | some _ => walkWith fs making expand (here ++ [Text.stored name]) rest
    | some _ => .error .notDirectory

def walk (fs : FileSystem) (making : Bool) :
    (links : Nat) → Place → List Text → Except SystemError Place
  | 0 => walkWith fs making fun _ _ => .error .linkLoop
  | links + 1 => walkWith fs making (walk fs making links)

/-- The place that a path means, seen from a directory given by its own absolute path. -/
def follow (fs : FileSystem) (making : Bool) (base path : Text) : Except SystemError Place :=
  if path = [] then .error .notFound
  else if (Text.stored path).length > maxPathBytes then .error .nameTooLong
  else if Path.isAbsolute path then fs.walk making maxLinks [] (steps path)
  else fs.walk making maxLinks (Place.named ((steps base).filter (· ≠ []))) (steps path)

def locate (fs : FileSystem) (base path : Text) : Except SystemError Place :=
  fs.follow false base path

/-- The place of a file that is to be made at a path unless it exists. -/
def locateNew (fs : FileSystem) (base path : Text) : Except SystemError Place :=
  fs.follow true base path

def entry? (fs : FileSystem) (base path : Text) : Except SystemError Entry :=
  match fs.locate base path with
  | .error e => .error e
  | .ok place =>
    match fs.get? place with
    | some entry => .ok entry
    | none => .error .notFound

/-- Whether a path leads to a directory. One that the system cannot be given leads nowhere. -/
def isDirectory (fs : FileSystem) (base path : Text) : Bool :=
  Text.isFit path &&
    match fs.entry? base path with
    | .ok (.directory _) => true
    | _ => false

def isExecutable (fs : FileSystem) (base path : Text) : Bool :=
  Text.isFit path &&
    match fs.entry? base path with
    | .ok entry => entry.isExecutable
    | .error _ => false

def read (fs : FileSystem) (base path : Text) : Except SystemError Bytes :=
  match fs.entry? base path with
  | .error e => .error e
  | .ok (.directory _) => .error .isDirectory
  | .ok (.file content _) => .ok content.toBytes
  | .ok (.link _) => .error .linkLoop
  | .ok (.device .terminal) => .error .noDevice
  | .ok (.device _) => .ok []
  | .ok (.program _) => .ok []

end FileSystem
end PipelineShell
