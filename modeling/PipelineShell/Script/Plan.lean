import PipelineShell.Script.Expansion
import PipelineShell.Script.Lookup
import PipelineShell.Script.Surrounding

/-!
# Plans of commands

The words of a command are expanded one after the other, since the name decides how the arguments
are expanded. `command` in front of a name passes over functions.
-/

namespace PipelineShell.Script

open Script.Shell

/-- What is known about a command whose words are being expanded. -/
structure Plan where
  fields : List Chars := []
  start : Nat := 0
  words : List (List Part)
  meaning : Lookup.Meaning := .missing
  special : Option Bool := none
  marking : Bool := false
  functions : Bool := true
  path : Option Chars := none

namespace Plan

def argv (p : Plan) : List Chars := p.fields.drop p.start

def isTemporary (p : Plan) : Bool := !p.fields.isEmpty && p.special ≠ some true

def isExec (p : Plan) : Bool :=
  match p.meaning with
  | .verb .exec => true
  | _ => false

section

variable (run : Option Node → Run Chars)

def fill (place : Nat) : List (List Part) → Plan → Run (Bool × Plan)
  | [], p => return (place < p.fields.length, { p with words := [] })
  | word :: words, p => do
    if place < p.fields.length then return (true, { p with words := word :: words })
    let more ← Expansion.fields run word
    fill place words { p with fields := p.fields ++ more }

def reach (p : Plan) (place : Nat) : Run (Bool × Plan) := fill run place p.words p

/-- Passes over the options of `command`; whether a name comes behind them comes out. The number of
steps is bounded. -/
def passOptions : Nat → (place : Nat) → Plan → Run (Bool × Plan)
  | 0, _, p => return (false, p)
  | fuel + 1, place, p => do
    let (found, p) ← p.reach run place
    match if found then p.fields[place]? else none with
    | none => return (false, p)
    | some ['-', '-'] => do
      let (found, p) ← p.reach run (place + 1)
      return (found, { p with start := place + 1, functions := false })
    | some ('-' :: c :: letters) =>
      if (c :: letters).all (· = 'p') then
        passOptions fuel (place + 1) { p with path := some Lookup.standardPath }
      else return (false, p)
    | some _ => return (true, { p with start := place, functions := false })

/-- Finds out what the name means, behind any number of `command`. -/
def choose : Nat → Plan → Run Plan
  | 0, p => return p
  | fuel + 1, p => do
    let name := (p.fields[p.start]?).getD []
    match ← Lookup.findKnown name p.functions with
    | .verb verb => do
      let p := { p with
        meaning := .verb verb, marking := verb.isMarking
        special := p.special <|> some verb.isSpecial }
      if verb ≠ .command then return p
      let before := p.start
      let (found, p) ← passOptions run rounds (p.start + 1) p
      if found then choose fuel p else return { p with start := before }
    | meaning => return { p with meaning, marking := false }

def complete (marking : Bool) : List (List Part) → Run (List Chars)
  | [] => return []
  | word :: words => do
    let fields ←
      match if marking then Source.assignment? word else none with
      | some (name, value) => do pure [← Expansion.assignmentText run name value]
      | none => Expansion.fields run word
    return fields ++ (← complete marking words)

/-- Expands the words of a command and finds out what its name means, without looking for
programs. -/
def ofWords (words : List (List Part)) : Run Plan := do
  let (found, p) ← ({ words } : Plan).reach run 0
  if !found then return p
  let p ← choose run rounds p
  let rest ← complete run p.marking p.words
  return { p with fields := p.fields ++ rest, words := [] }

end

end Plan
end PipelineShell.Script
