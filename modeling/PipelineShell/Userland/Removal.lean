import PipelineShell.FileSystem.Tree
import PipelineShell.Userland.Options
import PipelineShell.Userland.Quoting

/-!
# Removing directories

`rmdir` removes empty directories, and with them, if that is wanted, the directories above that
become empty. A link to a directory is none.
-/

namespace PipelineShell.Userland.Removal

def remove (fs : FileSystem) (cwd path : Text) : Except SystemError FileSystem :=
  let trimmed := (path.reverse.dropWhile (· = .char '/')).reverse
  let (above, name) := FileSystem.splitLast trimmed
  if path = [] then .error .notFound
  else if trimmed = [] then .error .busy
  else
    match fs.locate cwd (if above = [] then [.char '.'] else above) with
    | .error e => .error e
    | .ok place =>
      if !(fs.get? place).any Entry.isDirectory then
        .error (if (fs.get? place).isNone then .notFound else .notDirectory)
      else if name = [.char '.'] then .error .invalid
      else if name = [.char '.', .char '.'] then .error .notEmpty
      else
        let place := place ++ [Text.stored name]
        match fs.get? place with
        | none => .error .notFound
        | some (.directory _) =>
          if (fs.children place).isEmpty then .ok (fs.erase place) else .error .notEmpty
        | some _ => .error .notDirectory

/-- What is to be done. -/
structure Task where
  parents : Bool := false
  verbose : Bool := false
  tolerant : Bool := false

def known : Known where
  letters := [('p', .none), ('v', .none)]
  words :=
    [("ignore-fail-on-non-empty".toList, .none, 'i'), ("path".toList, .none, 'p'),
      ("parents".toList, .none, 'p'), ("verbose".toList, .none, 'v')]
  name := "rmdir"
  uses := ["[OPTION]... DIRECTORY..."]

def Task.add (k : Task) : Char → Task
  | 'p' => { k with parents := true }
  | 'v' => { k with verbose := true }
  | 'i' => { k with tolerant := true }
  | _ => k

def parent? (path : Chars) : Option Chars :=
  let trimmed := (path.reverse.dropWhile (· = '/')).reverse
  if !trimmed.contains '/' then none
  else
    let above := trimmed.reverse.dropWhile (· ≠ '/')
    match above.dropWhile (· = '/') with
    | [] => some ['/']
    | rest => some rest.reverse

def isFollowedLink (fs : FileSystem) (cwd path : Text) : Bool :=
  path.getLast? = some (.char '/') &&
    let trimmed := (path.reverse.dropWhile (· = .char '/')).reverse
    let (above, name) := FileSystem.splitLast trimmed
    match fs.locate cwd (if above = [] then [.char '.'] else above), fs.entry? cwd path with
    | .ok place, found =>
      (match fs.get? (place ++ [Text.stored name]) with
        | some (.link _) => true
        | _ => false) &&
      (match found with
        | .ok (.directory _) => true
        | .ok _ => false
        | .error e => decide (e ≠ .notDirectory))
    | .error _, _ => false

def Task.report (k : Task) (c : Call) (path : Chars) : List (Output × Bytes) :=
  if k.verbose then
    [(.stdout, c.bytes (c.headed ("removing directory, ".toList ++ Quoting.quotedName path ++
      ['\n'])))]
  else []

def Task.ascend (k : Task) (c : Call) : (fuel : Nat) → Chars → Deed → Deed
  | 0, _, deed => deed
  | fuel + 1, path, deed =>
    match parent? path with
    | none => deed
    | some above =>
      let deed := { deed with written := k.report c above ++ deed.written }
      match remove deed.files c.cwd (Octets.toText above) with
      | .ok files => k.ascend c fuel above { deed with files }
      | .error e =>
        if k.tolerant && (e = .notEmpty || e = .busy) then deed
        else
          let what := if e = .notDirectory then "failed to remove " else "failed to remove directory "
          { deed with
            written := c.complaint (what.toList ++ Quoting.quotedName above ++ ": ".toList ++
              e.wording) :: deed.written
            status := 1 }

def Task.run (k : Task) (c : Call) : List Chars → Deed → Deed
  | [], deed => deed
  | operand :: rest, deed =>
    let path := Octets.toText operand
    let deed := { deed with written := k.report c operand ++ deed.written }
    match remove deed.files c.cwd path with
    | .ok files =>
      let deed := { deed with files }
      k.run c rest (if k.parents then k.ascend c (operand.length + 1) operand deed else deed)
    | .error e =>
      if k.tolerant && (e = .notEmpty || e = .busy) then k.run c rest deed
      else
        let reason :=
          if e = .notDirectory && isFollowedLink deed.files c.cwd path then
            "Symbolic link not followed".toList
          else e.wording
        k.run c rest { deed with
          written := c.complaint ("failed to remove ".toList ++ Quoting.quotedName operand ++
            ": ".toList ++ reason) :: deed.written
          status := 1 }

end Removal

def rmdir : Tool := fun c d =>
  let args := c.arguments Removal.known
  let task := args.options.foldl (fun (k : Removal.Task) o => k.add o.1) {}
  match args.ending, args.operands with
  | some ending, _ => ending.deed c d
  | none, [] => c.misuse d 1 "missing operand".toList
  | none, operands =>
    let deed := task.run c operands { files := d.files }
    { deed with written := deed.written.reverse }

end PipelineShell.Userland
