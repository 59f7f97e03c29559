import PipelineShell.Userland.Backtracking.Machine

/-!
# Lines that cannot be decoded throughout

The parts of a line between bytes that are not UTF-8, which are searched separately.
-/

namespace PipelineShell.Userland.Backtracking

def isStray (c : Char) : Bool :=
  !Regex.isDecoded c &&
    match Regex.bytesOf c with
    | [b] => b < 0xc2 || 0xf4 < b
    | _ => false

def countFrom (symbols : Array Char) (accepts : Char → Bool) (place : Nat) : Nat :=
  if h : place < symbols.size then
    if accepts symbols[place] then countFrom symbols accepts (place + 1) + 1 else 0
  else 0
termination_by symbols.size - place

namespace Program

def searchEmpty (p : Program) (headless : Bool) (place : Nat) :
    Except Chars (Option (Nat × Nat)) :=
  (p.search #[] headless false 0).map fun found => found.map fun _ => (place, place)

/-- Looks for the first match in the fragments of a line from a place on; `start` is where the first
of them begins, and the fuel bounds how many there are. -/
def searchFragments (p : Program) (line : Array Char) : (fuel : Nat) → (headless : Bool) →
    (start place : Nat) → Except Chars (Option (Nat × Nat))
  | 0, _, _, _ => .ok none
  | fuel + 1, headless, start, place =>
    let strays := countFrom line isStray place
    let headless := headless || strays > 0
    let place := place + strays
    let start := if strays > 0 then place else start
    let stop := start + countFrom line Regex.isDecoded start
    let isLast : Bool := stop = line.size
    let found :=
      if place = line.size || stop = start then p.searchEmpty headless place
      else
        (p.search (line.extract start stop) headless (!isLast) (place - start)).map fun found =>
          found.map fun (b, e) => (start + b, start + e)
    match found with
    | .ok none =>
      if isLast then .ok none else searchFragments p line fuel true (stop + 1) (stop + 1)
    | found => found

/-- The first match in a line from a place on: its beginning and its end. A fragment begins there if
the place is `torn` from what is before it, as it is behind the first byte of a symbol that has been
passed over. -/
def find (p : Program) (line : Array Char) (torn : Bool) (place : Nat) :
    Except Chars (Option (Nat × Nat)) :=
  let torn := p.wide && torn
  if !torn && line.all Regex.isDecoded then p.search line (place > 0) false place
  else
    let before := (line.extract 0 place).toList.reverse.takeWhile Regex.isDecoded
    let start := if torn then place else place - before.length
    p.searchFragments line (line.size + 2) (place > 0) start place

end Program
end PipelineShell.Userland.Backtracking
