import PipelineShell.FileSystem.Tree
import PipelineShell.Script.Pattern
import PipelineShell.Text.Octets

/-!
# File names from patterns

A pattern stands for the paths of the files that it matches name by name, in the order of their
octets. Names that begin with a dot are only matched by patterns that do so too.
-/

namespace PipelineShell.Script.FileName

def isClosed : Nat → Chars → Bool
  | 0, _ => false
  | fuel + 1, t =>
    let t := match t with | '\\' :: rest => rest | t => t
    match t with
    | [] | '/' :: _ => false
    | _ :: ']' :: _ => true
    | _ :: rest => isClosed fuel rest

/-- A pattern, cut where the first name with special characters begins and where it ends. -/
structure Cut where
  before : Chars
  name : Chars
  behind : Option Chars

def cut : Nat → (special : Bool) → (before name : Chars) → Chars → Option Cut
  | 0, _, _, _, _ => none
  | fuel + 1, special, before, name, t =>
    let slash (written rest : Chars) : Option Cut :=
      if special then some ⟨before.reverse, name.reverse, some rest⟩
      else cut fuel false (written ++ name ++ before) [] rest
    match t with
    | [] => if special then some ⟨before.reverse, name.reverse, none⟩ else none
    | '/' :: rest => slash ['/'] rest
    | '\\' :: '/' :: rest => slash ['/', '\\'] rest
    | '\\' :: c :: rest => cut fuel special before (c :: '\\' :: name) rest
    | '[' :: rest =>
      let set := match rest with | '!' :: set => set | set => set
      cut fuel (special || isClosed set.length.succ set) before ('[' :: name) rest
    | c :: rest => cut fuel (special || c = '*' || c = '?') before (c :: name) rest

def plain : Chars → Chars
  | [] => []
  | '\\' :: c :: rest => c :: plain rest
  | c :: rest => c :: plain rest

def namesIn (fs : FileSystem) (cwd : Text) (directory : Chars) : List Chars :=
  match fs.locate cwd (Octets.toText (if directory = [] then ['.'] else directory)) with
  | .error _ => []
  | .ok place =>
    match fs.get? place with
    | some (.directory _) => ['.'] :: ['.', '.'] :: (fs.children place).map Octets.ofBytes
    | _ => []

def expandFrom (fs : FileSystem) (cwd : Text) : Nat → (above pattern : Chars) → List Chars
  | 0, _, _ => []
  | fuel + 1, above, pattern =>
    match cut pattern.length.succ false [] [] pattern with
    | none =>
      let path := above ++ plain pattern
      if above = [] then []
      else
        match fs.bare? cwd (Octets.toText path) with
        | .ok _ => [path]
        | .error _ => []
    | some c =>
      let directory := above ++ plain c.before
      let first := match c.name with | '\\' :: rest => rest.head? | name => name.head?
      let names := (namesIn fs cwd directory).filter fun name =>
        (name.head? ≠ some '.' || first = some '.') && Pattern.isMatch c.name name
      match c.behind with
      | none => names.map (directory ++ ·)
      | some behind =>
        names.flatMap fun name => expandFrom fs cwd fuel (directory ++ name ++ ['/']) behind

def expand (fs : FileSystem) (cwd : Text) (pattern : Chars) : List Chars :=
  (expandFrom fs cwd pattern.length.succ [] pattern).mergeSort Chars.le

end PipelineShell.Script.FileName
