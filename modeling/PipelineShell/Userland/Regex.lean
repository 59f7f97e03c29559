import PipelineShell.Userland.Regex.Symbol

/-!
# Regular expressions

An expression with back references is matched by following all ways at once, each with its groups.
-/

namespace PipelineShell.Userland

/-- A regular expression. -/
inductive Regex
  | empty
  | one (accepts : Char → Bool)
  | spot (s : Regex.Spot)
  | both (first second : Regex)
  | either (first second : Regex)
  | star (body : Regex)
  | times (body : Regex) (least : Nat) (most : Option Nat)
  | group (number : Nat) (body : Regex)
  | back (number : Nat)

namespace Regex

def refersBack : Regex → Bool
  | .empty | .one _ | .spot _ => false
  | .both a b | .either a b => a.refersBack || b.refersBack
  | .star a | .times a _ _ | .group _ a => a.refersBack
  | .back _ => true

def append (r s : Regex) : Regex :=
  match r with
  | .empty => s
  | r => .both r s

def any? : List Regex → Option Regex
  | [] => none
  | r :: rest => some (rest.foldl .either r)

/-- A line in which places are counted. -/
structure Line where
  symbols : Array Char
  wide : Bool

namespace Line

def before (line : Line) (p : Nat) : Side :=
  side line.wide (if p = 0 then none else line.symbols[p - 1]?)

def after (line : Line) (p : Nat) : Side := side line.wide line.symbols[p]?

def sameParts (line : Line) (fold : Bool) (a b length : Nat) : Bool :=
  b + length ≤ line.symbols.size && (List.range length).all fun i =>
    let x := line.symbols.getD (a + i) ' '
    let y := line.symbols.getD (b + i) ' '
    if fold then upper line.wide x = upper line.wide y else x = y

end Line

/-- A place together with what the groups have matched: number, beginning and end. -/
structure Path where
  place : Nat
  groups : List (Nat × Nat × Nat) := []
  deriving DecidableEq, Repr

def newPaths (paths others : List Path) : List Path :=
  paths.foldl (fun acc p => if others.contains p || acc.contains p then acc else acc ++ [p]) []

def closePaths (next : Path → List Path) : (fuel : Nat) → (all new : List Path) → List Path
  | 0, all, _ | _, all, [] => all
  | fuel + 1, all, new =>
    let fresh := newPaths (new.flatMap next) all
    closePaths next fuel (all ++ fresh) fresh

def pathsUpTo (next : Path → List Path) : (count : Nat) → (all new : List Path) → List Path
  | 0, all, _ | _, all, [] => all
  | count + 1, all, new =>
    let fresh := newPaths (new.flatMap next) all
    pathsUpTo next count (all ++ fresh) fresh

def pathsExactly (next : Path → List Path) : (count : Nat) → List Path → List Path
  | 0, paths => paths
  | count + 1, paths => pathsExactly next count (newPaths (paths.flatMap next) [])

def paths (line : Line) (fold : Bool) : Regex → Path → List Path
  | .empty, p => [p]
  | .one accepts, p =>
    match line.symbols[p.place]? with
    | some c => if accepts c then [{ p with place := p.place + 1 }] else []
    | none => []
  | .spot s, p => if s.holds (line.before p.place) (line.after p.place) then [p] else []
  | .both a b, p => newPaths ((paths line fold a p).flatMap (paths line fold b)) []
  | .either a b, p => newPaths (paths line fold a p ++ paths line fold b p) []
  | .star a, p => closePaths (paths line fold a) (line.symbols.size + 2) [p] [p]
  | .times a least most, p =>
    let start := pathsExactly (paths line fold a) least [p]
    match most with
    | none => closePaths (paths line fold a) (line.symbols.size + 2) start start
    | some most => pathsUpTo (paths line fold a) (most - least) start start
  | .group n a, p =>
    (paths line fold a p).map fun q =>
      { q with groups := (n, p.place, q.place) :: q.groups.filter (·.1 ≠ n) }
  | .back n, p =>
    match p.groups.lookup n with
    | some (b, e) =>
      if line.sameParts fold b p.place (e - b) then [{ p with place := p.place + (e - b) }] else []
    | none => []

def ends (r : Regex) (line : Line) (fold : Bool) (start : Nat) : List Nat :=
  (paths line fold r ⟨start, []⟩).map (·.place)

end Regex
end PipelineShell.Userland
