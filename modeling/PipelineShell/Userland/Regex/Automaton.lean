import PipelineShell.Userland.Regex

/-!
# Automata

Expressions without back references, as instructions; the states of a match are a set of bits, so
each line is read once.
-/

namespace PipelineShell.Userland.Regex

/-- An instruction. -/
inductive Instruction
  | accept
  | take (accepts : Char → Bool) (next : Nat)
  | test (s : Spot) (next : Nat)
  | fork (first second : Nat)

def copies (add : Nat → Array Instruction → Nat × Array Instruction) :
    (count : Nat) → (next : Nat) → Array Instruction → Nat × Array Instruction
  | 0, next, code => (next, code)
  | count + 1, next, code =>
    let (next, code) := copies add count next code
    add next code

def optionals (add : Nat → Array Instruction → Nat × Array Instruction) (next : Nat) :
    (count : Nat) → Array Instruction → Nat × Array Instruction
  | 0, code => (next, code)
  | count + 1, code =>
    let (entry, code) := optionals add next count code
    let (entry, code) := add entry code
    (code.size, code.push (.fork entry next))

def loopOf (add : Nat → Array Instruction → Nat × Array Instruction) (next : Nat)
    (code : Array Instruction) : Nat × Array Instruction :=
  let here := code.size
  let (entry, code) := add here (code.push (.fork next next))
  (here, code.setIfInBounds here (.fork entry next))

/-- Adds the instructions of an expression, which go on at `next`; the first of them comes out. -/
def emit : Regex → (next : Nat) → Array Instruction → Nat × Array Instruction
  | .empty, next, code | .back _, next, code => (next, code)
  | .one accepts, next, code => (code.size, code.push (.take accepts next))
  | .spot s, next, code => (code.size, code.push (.test s next))
  | .both a b, next, code =>
    let (next, code) := emit b next code
    emit a next code
  | .either a b, next, code =>
    let (first, code) := emit a next code
    let (second, code) := emit b next code
    (code.size, code.push (.fork first second))
  | .star a, next, code => loopOf (emit a) next code
  | .times a least most, next, code =>
    let (next, code) :=
      match most with
      | none => loopOf (emit a) next code
      | some most => optionals (emit a) next (most - least) code
    copies (emit a) least next code
  | .group _ a, next, code => emit a next code

/-- Where a match may stand that has come to some instructions between two sides; `seen` and `out`
are sets, and the fuel bounds the steps. -/
def close (code : Array Instruction) (before after : Side) :
    (fuel : Nat) → (seen out : Nat) → List Nat → Nat
  | 0, _, out, _ | _, _, out, [] => out
  | fuel + 1, seen, out, i :: rest =>
    if seen.testBit i then close code before after fuel seen out rest
    else
      let seen := seen ||| 1 <<< i
      match code[i]? with
      | some .accept | some (.take _ _) => close code before after fuel seen (out ||| 1 <<< i) rest
      | some (.test s next) =>
        if s.holds before after then close code before after fuel seen out (next :: rest)
        else close code before after fuel seen out rest
      | some (.fork first second) =>
        close code before after fuel seen out (first :: second :: rest)
      | none => close code before after fuel seen out rest

/-- What instructions come to between two sides. -/
structure Table where
  start : Nat
  behind : Array Nat

def tableOf (code : Array Instruction) (entry : Nat) (before after : Side) : Table :=
  let closed (i : Nat) : Nat := close code before after (2 * code.size + 2) 0 0 [i]
  { start := closed entry
    behind := code.map fun
      | .take _ next => closed next
      | _ => 0 }

/-- An automaton. -/
structure Automaton where
  wide : Bool
  code : Array Instruction
  looksAround : Bool
  takers : Array Nat
  tables : Array (Thunk Table)

def takersIn (code : Array Instruction) (c : Char) : Nat :=
  (code.foldl (fun (acc : Nat × Nat) i =>
    match i with
    | .take accepts _ => (if accepts c then acc.1 ||| 1 <<< acc.2 else acc.1, acc.2 + 1)
    | _ => (acc.1, acc.2 + 1)) (0, 0)).1

def tableSize : Nat := 256

def sides : List Side := [.edge, .word, .other]

def Side.index : Side → Nat
  | .edge => 0
  | .word => 1
  | .other => 2

def Automaton.ofRegex (wide : Bool) (r : Regex) : Automaton :=
  let (entry, code) := emit r 0 #[.accept]
  let looksAround := code.any fun
    | .test _ _ => true
    | _ => false
  { wide, code, looksAround
    takers := Array.ofFn fun i : Fin tableSize => takersIn code (Char.ofNat i.val)
    tables :=
      if looksAround then
        (sides.flatMap fun before => sides.map fun after =>
          Thunk.mk fun _ => tableOf code entry before after).toArray
      else #[Thunk.mk fun _ => tableOf code entry .edge .edge] }

namespace Automaton

def takersOf (a : Automaton) (c : Char) : Nat :=
  match a.takers[c.toNat]? with
  | some taking => taking
  | none => takersIn a.code c

def table (a : Automaton) (before after : Side) : Table :=
  let i := if a.looksAround then 3 * before.index + after.index else 0
  match a.tables[i]? with
  | some t => t.get
  | none => ⟨0, #[]⟩

def sideOf (a : Automaton) (c : Option Char) : Side :=
  if a.looksAround then side a.wide c else .other

def advance (behind : Array Nat) : (fuel : Nat) → (taking live : Nat) → Nat
  | 0, _, live => live
  | fuel + 1, taking, live =>
    if taking = 0 then live
    else
      let i := taking.log2
      advance behind fuel (taking - 1 <<< i) (live ||| behind.getD i 0)

def step (a : Automaton) (t : Table) (live : Nat) (c : Char) : Nat :=
  let taking := live &&& a.takersOf c
  if taking = 0 then 0 else advance t.behind a.code.size taking 0

/-- Whether a match ends somewhere behind a symbol, given where one may stand before what is left.
-/
def occursBehind (a : Automaton) : (live : Nat) → Chars → Bool
  | live, [] => live.testBit 0
  | live, c :: rest =>
    live.testBit 0 ||
      let t := a.table (a.sideOf (some c)) (a.sideOf rest.head?)
      occursBehind a (a.step t live c ||| t.start) rest

def occurs (a : Automaton) (line : Chars) : Bool :=
  a.occursBehind (a.table (a.sideOf none) (a.sideOf line.head?)).start line

/-- Matches that have begun at the same place. -/
structure Begun where
  start : Nat
  live : Nat

/-- What has become of matches behind a symbol. Of two that stand at the same instruction only the
one that has begun earlier goes on. -/
def stepAll (a : Automaton) (t : Table) (c : Char) : (seen : Nat) → List Begun → List Begun
  | _, [] => []
  | seen, b :: rest =>
    let live := a.step t b.live c
    let live := live ^^^ (live &&& seen)
    if live = 0 then stepAll a t c seen rest
    else ⟨b.start, live⟩ :: stepAll a t c (seen ||| live) rest

/-- The earliest of some matches that is complete, with those that have begun before it and itself;
without one, all of them. -/
def upToComplete : List Begun → Option Nat × List Begun
  | [] => (none, [])
  | b :: rest =>
    if b.live.testBit 0 then (some b.start, [b])
    else
      let (found, rest) := upToComplete rest
      (found, b :: rest)

/-- Looks for the first of the longest matches from a place on: `all` are those that have begun
before it, and `best` is the best one so far. With `words`, a match does not begin or end within a
word. -/
def searchFrom (a : Automaton) (words : Bool) : (place : Nat) → (before : Option Char) →
    (all : List Begun) → (best : Option (Nat × Nat)) → Chars → Option (Nat × Nat)
  | place, before, all, best, t =>
    let after := a.sideOf t.head?
    let isInWord (c : Option Char) : Bool := words && c.any (isWord a.wide)
    let all :=
      if best.isSome || isInWord before then all
      else
        let seen := all.foldl (fun n b => n ||| b.live) 0
        let start := (a.table (a.sideOf before) after).start
        let live := start ^^^ (start &&& seen)
        if live = 0 then all else all ++ [⟨place, live⟩]
    let (found, all) := if isInWord t.head? then (none, all) else upToComplete all
    let best := (found.map (·, place)) <|> best
    match t with
    | [] => best
    | c :: rest =>
      if all.isEmpty && best.isSome then best
      else
        let table := a.table (a.sideOf (some c)) (a.sideOf rest.head?)
        searchFrom a words (place + 1) (some c) (a.stepAll table c 0 all) best rest
  termination_by _ _ _ _ t => t.length

/-- The first match from a place on, and the longest of those that begin there: its beginning and
its end. What is before the place is given. -/
def search (a : Automaton) (words : Bool) (place : Nat) (before : Option Char) (t : Chars) :
    Option (Nat × Nat) :=
  a.searchFrom words place before [] none t

end Automaton
end PipelineShell.Userland.Regex
