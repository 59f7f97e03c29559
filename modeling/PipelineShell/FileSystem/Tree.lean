import PipelineShell.FileSystem.Basic
import PipelineShell.Text.Order

/-!
# Building and comparing file systems

File systems built path by path, and the regular files in which two of them differ.
-/

namespace PipelineShell.FileSystem

def addDirectory (fs : FileSystem) (base path : Text) : FileSystem :=
  match fs.locate base path with
  | .ok place => if (fs.get? place).isNone then fs.set place (.directory Mode.directory) else fs
  | .error _ => fs

def addDirectoriesFrom (fs : FileSystem) (base path : Text) : List Text → FileSystem
  | [] => fs
  | name :: rest =>
    let path := Path.join path name
    (fs.addDirectory base path).addDirectoriesFrom base path rest

def addDirectories (fs : FileSystem) (base path : Text) : FileSystem :=
  fs.addDirectoriesFrom base (Path.rootSlashes path) ((Path.names path).filter (· ≠ []))

def splitLast (path : Text) : Text × Text :=
  let name := (path.reverse.takeWhile (· ≠ .char '/')).reverse
  (path.take (path.length - name.length), name)

def bare? (fs : FileSystem) (base path : Text) : Except SystemError Entry :=
  let (above, name) := splitLast path
  if name = [] || name = [.char '.'] || name = [.char '.', .char '.'] then fs.entry? base path
  else
    match fs.locate base (if above = [] then [.char '.'] else above) with
    | .error e => .error e
    | .ok place =>
      match fs.get? place with
      | none => .error .notFound
      | some (.directory _) =>
        if (Text.stored name).length > maxNameBytes then .error .nameTooLong
        else
          match fs.get? (place ++ [Text.stored name]) with
          | some entry => .ok entry
          | none => .error .notFound
      | some _ => .error .notDirectory

def addFile (fs : FileSystem) (base path : Text) (content : Bytes) (mode : Mode) :
    FileSystem :=
  let fs := fs.addDirectories base (splitLast path).1
  match fs.locate base path with
  | .ok place => fs.set place (.file (.ofBytes content) mode)
  | .error _ => fs

def addLink (fs : FileSystem) (base path target : Text) : FileSystem :=
  let (above, name) := splitLast path
  let fs := fs.addDirectories base above
  match fs.locate base (if above = [] then [.char '.'] else above) with
  | .ok place => fs.set (place ++ [Text.stored name]) (.link target)
  | .error _ => fs

/-- The regular files below a place that are new or hold other bytes than before, by their paths
from that place, in ascending order. -/
def changes (before after : FileSystem) (root : Place) : List (Text × Bytes) :=
  let changed := after.entries.filterMap fun (place, entry) =>
    match entry with
    | .file content _ =>
      let same :=
        match before.get? place with
        | some (.file old _) => old = content
        | _ => false
      if root.isPrefixOf place && !same then
        some (Place.text (place.drop root.length), content.toBytes)
      else none
    | _ => none
  changed.mergeSort fun a b => Text.le a.1 b.1

end PipelineShell.FileSystem
