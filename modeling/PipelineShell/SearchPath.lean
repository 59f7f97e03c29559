import PipelineShell.Failure
import PipelineShell.FileSystem.Basic

/-!
# Search paths

`find_executable` and `list_all_executables`: the programs in the directories of `PATH`. A name with
a slash is a path of its own.
-/

namespace PipelineShell.SearchPath

def directories (path : Text) : List Text := Text.splitOn ':' path

/-- `find_executable`: the absolute path of the first program with a name; `base` is the directory
of the running process and `cwd` that of the session. -/
def locate (fs : FileSystem) (base : Text) (path cwd : Option Text) (name : Text) : Option Text :=
  if name.isEmpty then none
  else if name.contains '/' then
    let start :=
      match cwd with
      | none | some [] => base
      | some cwd => cwd
    let candidate := Path.join start name
    if fs.isExecutable base candidate then some (Path.absolute base candidate) else none
  else
    match path with
    | none | some [] => none
    | some path =>
      ((directories path).map (Path.join · name)).find? (fs.isExecutable base)
        |>.map (Path.absolute base)

/-- The names of the programs in one directory; none if it cannot be listed. -/
def programsIn (fs : FileSystem) (base directory : Text) : List Text :=
  match fs.locate base directory with
  | .error _ => []
  | .ok place =>
    match fs.get? place with
    | some (.directory _) =>
      if fs.unlisted.contains place then []
      else
        ((fs.children place).map Text.ofStored).filter fun name =>
          fs.isExecutable base (Path.join directory name)
    | _ => []

/-- The names that `list_all_executables` scans, directory by directory, with repetitions. Empty
entries are skipped, and so are directories that are missing or cannot be listed. The scan fails at
an entry that the system cannot be given. -/
def programs (fs : FileSystem) (base : Text) (path : Option Text) : Except Failure (List Text) :=
  let scanned := (directories (path.getD [])).filter (!·.isEmpty)
  match scanned.findSome? Text.unfit? with
  | some failure => .error failure
  | none => .ok (scanned.flatMap (programsIn fs base))

end PipelineShell.SearchPath
