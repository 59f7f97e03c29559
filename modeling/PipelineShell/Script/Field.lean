import PipelineShell.Script.Pattern

/-!
# Fields

Unquoted pieces of an expanded word are split at the separators; blanks among these count once.
Arguments are kept apart by NUL.
-/

namespace PipelineShell.Script

/-- A part of a field. -/
inductive Cell
  | char (escaped : Bool) (c : Char)
  | mark
  deriving DecidableEq, Repr

/-- Where a piece is split. -/
inductive Region
  | never
  | separators
  | nul
  deriving DecidableEq, Repr

/-- What a part of a word is expanded to. -/
structure Piece where
  region : Region
  cells : List Cell
  deriving DecidableEq, Repr

namespace Cell

def isMeaningful (c : Char) : Bool := "!*?[=~:/-]\\".toList.contains c

def ofText (quoted : Bool) (t : Chars) : List Cell :=
  t.map fun c => .char (quoted && isMeaningful c) c

def toText (cells : List Cell) : Chars :=
  cells.filterMap fun
    | .char _ c => some c
    | .mark => none

def toPattern (cells : List Cell) : Chars :=
  cells.flatMap fun
    | .char true c => ['\\', c]
    | .char false c => [c]
    | .mark => []

@[simp] theorem toText_ofText (quoted : Bool) (t : Chars) : toText (ofText quoted t) = t := by
  simp only [toText, ofText, List.filterMap_map, Function.comp_def, List.filterMap_some]

end Cell

namespace Field

def blanks : Chars := [' ', '\t', '\n']

/-- Where splitting is. -/
structure State where
  done : List (List Cell) := []
  open_ : List Cell := []
  blank : Bool := false
  atNul : Bool := false
  left : Option Nat := none
  kept : Option Nat := none

def step (separators : Chars) (afterNul : Bool) (s : State) (cell : Cell) : State :=
  let c : Char := match cell with | .char _ c => c | .mark => 'x'
  let ends := c = '\x00' || (!s.atNul && separators.contains c)
  let isBlank := ends && (c = '\x00' || blanks.contains c)
  let added : State := { s with open_ := cell :: s.open_ }
  if s.left = some 0 then
    if isBlank then { added with kept := some (s.kept.getD s.open_.length) }
    else { added with kept := if ends && s.blank then s.kept else none, blank := false }
  else if s.blank && isBlank then s
  else if s.blank && ends then { s with blank := false }
  else if !ends then { added with blank := false }
  else
    let blank := if afterNul || s.atNul then s.blank else isBlank
    if s.open_.isEmpty && blank then { s with blank := false }
    else if s.left = some 1 then { added with blank, left := some 0, kept := some s.open_.length }
    else
      { s with
        blank, left := s.left.map (· - 1), done := s.open_.reverse :: s.done, open_ := [] }

def addPiece (separators : Chars) (s : State) (p : Piece) : State :=
  match p.region with
  | .never => { s with open_ := p.cells.reverse ++ s.open_ }
  | region =>
    let s' := { s with atNul := region = .nul, blank := false }
    p.cells.foldl (step separators s.atNul) s'

def split (separators : Chars) (limit : Option Nat) (pieces : List Piece) : List (List Cell) :=
  let s := pieces.foldl (addPiece separators) { left := limit }
  let last := s.open_.reverse
  if s.atNul then (last :: s.done).reverse
  else
    let last :=
      match s.kept with
      | some n => last.take n
      | none => last
    if last.isEmpty then s.done.reverse else (last :: s.done).reverse

def whole (pieces : List Piece) : List Cell := pieces.flatMap (·.cells)

example : (split blanks none [⟨.separators, Cell.ofText false " a  b ".toList⟩]).map Cell.toText =
    ["a".toList, "b".toList] := by decide
example : (split [':'] none [⟨.separators, Cell.ofText false "a::b:".toList⟩]).map Cell.toText =
    ["a".toList, [], "b".toList] := by decide
example : split blanks none [⟨.nul, []⟩] = [[]] := by decide

end Field
end PipelineShell.Script
