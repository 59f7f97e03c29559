import PipelineShell.Script.Command.Letters
import PipelineShell.Script.Field

/-!
# `read`

`read` splits a line among variables; a backslash escapes a separator or the line end.
-/

namespace PipelineShell.Script.Command

open Script.Shell Userland

/-- Where the reading of a line is: its pieces in reverse. -/
structure LineState where
  pieces : List Piece := []
  open_ : List Cell := []
  escaping : Bool := false
  complete : Bool := false

def LineState.close (s : LineState) : LineState :=
  { s with pieces := ⟨.separators, s.open_.reverse⟩ :: s.pieces, open_ := [] }

def LineState.take (raw : Bool) (s : LineState) (c : Char) : LineState :=
  if c = '\x00' then s
  else if s.escaping then
    let s := { s.close with escaping := false }
    if c = '\n' then s else { s with pieces := ⟨.never, [.char false c]⟩ :: s.pieces }
  else if c = '\\' && !raw then { s with escaping := true }
  else if c = '\n' then { s with complete := true }
  else { s with open_ := .char false c :: s.open_ }

def readLine (raw : Bool) (number : Nat) : Run LineState := do
  let step (line : LineState) : Run (Bool × LineState) := do
    match ← task (Userland.Task.read number 1) with
    | .ok (b :: _) =>
      let line := line.take raw (Char.ofNat b.toNat)
      return (!line.complete, line)
    | _ => return (false, line)
  iterate step rounds {}

def distribute : List Chars → List (List Cell) → Run Unit
  | [], _ => return
  | name :: names, fields => do
    assign name (Cell.toText (fields.headD []))
    distribute names (fields.drop 1)

def read (args : List Chars) : Run Int := do
  let (options, names) ← readOptions [('p', true), ('r', false)] args
  if names.isEmpty then fail "arg count".toList
  let s ← get
  let raw := options.any (·.1 = 'r')
  let line : LineState ←
    match s.descriptors.lookup 0 with
    | none => pure {}
    | some number => readLine raw number
  let pieces := line.close.pieces.reverse
  let s ← get
  distribute names (Field.split (s.separators.getD Field.blanks) (some names.length) pieces)
  return if line.complete then 0 else 1

end PipelineShell.Script.Command
