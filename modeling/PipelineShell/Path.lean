import PipelineShell.Text.Basic

/-!
# Paths

`join` and `normpath`, which work on the text alone. Two leading slashes are kept, three or more
count as one.
-/

namespace PipelineShell.Path

def isAbsolute : Text → Bool
  | .char '/' :: _ => true
  | _ => false

def join (base path : Text) : Text :=
  if isAbsolute path then path
  else if base.isEmpty || base.getLast? = some (.char '/') then base ++ path
  else base ++ .char '/' :: path

def names (path : Text) : List Text := Text.splitOn (.char '/') path

def rootSlashes : Text → Text
  | .char '/' :: .char '/' :: .char '/' :: _ => [.char '/']
  | .char '/' :: .char '/' :: _ => [.char '/', .char '/']
  | .char '/' :: _ => [.char '/']
  | _ => []

def push (absolute : Bool) (stack : List Text) (name : Text) : List Text :=
  if name = [] || name = [.char '.'] then stack
  else if name = [.char '.', .char '.'] then
    match stack with
    | [] => if absolute then [] else [name]
    | top :: below => if top = [.char '.', .char '.'] then name :: stack else below
  else name :: stack

def normalNames (path : Text) : List Text :=
  ((names path).foldl (push (isAbsolute path)) []).reverse

/-- `normpath`. -/
def normalize (path : Text) : Text :=
  match rootSlashes path ++ Text.join [.char '/'] (normalNames path) with
  | [] => [.char '.']
  | normal => normal

def absolute (base path : Text) : Text := normalize (join base path)

example : normalize "/a//b/./../c/".runes = "/a/c".runes := by decide
example : normalize "//a/../..".runes = "//".runes := by decide
example : normalize "a/../..".runes = "..".runes := by decide
example : normalize [] = ".".runes := by decide

end PipelineShell.Path
