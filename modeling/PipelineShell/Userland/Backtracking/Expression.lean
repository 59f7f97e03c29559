import PipelineShell.Userland.Regex.Symbol

/-!
# Expressions that are tried in order

Perl-compatible expressions: ordered alternatives, greedy and lazy repeats, look-around, back
references and subroutines.
-/

namespace PipelineShell.Userland.Backtracking

/-- A place that is asked for. -/
inductive Spot
  | start
  | head (newlines : Bool)
  /-- Where what is looked at ends, perhaps but for a newline; `strict` leaves none. -/
  | finish (strict : Bool)
  | tail (newlines : Bool)
  | origin
  | wordEdge (wanted : Bool)
  deriving DecidableEq, Repr

/-- How a repetition goes on. -/
inductive Greed
  | greedy
  | lazy
  | possessive
  deriving DecidableEq, Repr

/-- How a group is referred to. -/
inductive Reference
  | number (n : Nat)
  | name (t : Chars)
  deriving DecidableEq, Repr

/-- What tells which of two expressions counts. -/
inductive Condition
  | matched (r : Reference)
  | used (r : Option Reference)
  | never
  deriving DecidableEq, Repr

/-- What changes the order in which matches are tried. -/
inductive Verb
  | fail
  | accept
  | commit
  | prune
  | skip
  deriving DecidableEq, Repr

/-- An expression. -/
inductive Expression
  | empty
  | one (accepts : Char → Bool) (symbol : Option Char := none)
  | dot (all : Bool)
  | spot (s : Spot)
  | both (first second : Expression)
  | either (first second : Expression)
  | repeated (body : Expression) (least : Nat) (most : Option Nat) (greed : Greed)
  | atomic (body : Expression)
  | bracket (body : Expression)
  | group (number : Nat) (body : Expression)
  | back (r : Reference) (fold : Bool)
  | look (ahead wanted : Bool) (body : Expression)
  | keep
  | choice (c : Condition) (yes no : Expression)
  | choiceBy (look yes no : Expression)
  | call (r : Reference)
  | verb (v : Verb)

namespace Expression

def append (r s : Expression) : Expression :=
  match r, s with
  | .empty, s => s
  | r, .empty => r
  | r, s => .both r s

def ofLine (r : Expression) : Expression :=
  .both (.spot (.head false)) (.both (.bracket r) (.spot (.tail false)))

def mayBeEmpty : Expression → Bool
  | .one _ _ | .dot _ => false
  | .both a b => a.mayBeEmpty && b.mayBeEmpty
  | .either a b => a.mayBeEmpty || b.mayBeEmpty
  | .repeated a least _ _ => least = 0 || a.mayBeEmpty
  | .atomic a | .bracket a | .group _ a => a.mayBeEmpty
  | .choice _ a b | .choiceBy _ a b => a.mayBeEmpty || b.mayBeEmpty
  | .empty | .spot _ | .back _ _ | .look _ _ _ | .keep | .call _ | .verb _ => true

def width? : Expression → Option Nat
  | .empty | .spot _ | .look _ _ _ | .keep | .verb .fail | .verb .commit | .verb .prune
  | .verb .skip => some 0
  | .one _ _ | .dot _ => some 1
  | .both a b =>
    match a.width?, b.width? with
    | some m, some n => some (m + n)
    | _, _ => none
  | .either a b | .choice _ a b | .choiceBy _ a b =>
    match a.width?, b.width? with
    | some m, some n => if m = n then some m else none
    | _, _ => none
  | .repeated a least most _ =>
    if most = some least then (a.width?).map (least * ·) else none
  | .atomic a | .bracket a | .group _ a => a.width?
  | .back _ _ | .call _ | .verb .accept => none

def alternatives : Expression → List Expression
  | .either a b => a.alternatives ++ b.alternatives
  | r => [r]

def looksFixed : Expression → Bool
  | .look ahead _ body => (ahead || body.alternatives.all (·.width?.isSome)) && body.looksFixed
  | .both a b | .either a b | .choice _ a b => a.looksFixed && b.looksFixed
  | .choiceBy l a b => l.looksFixed && a.looksFixed && b.looksFixed
  | .repeated a _ _ _ | .atomic a | .bracket a | .group _ a => a.looksFixed
  | .empty | .one _ _ | .dot _ | .spot _ | .back _ _ | .keep | .call _ | .verb _ => true

def references : Expression → List Reference
  | .back r _ | .call r => [r]
  | .choice c a b =>
    (match c with
      | .matched r | .used (some r) => [r]
      | .used none | .never => []) ++ a.references ++ b.references
  | .both a b | .either a b => a.references ++ b.references
  | .choiceBy l a b => l.references ++ a.references ++ b.references
  | .repeated a _ _ _ | .atomic a | .bracket a | .group _ a | .look _ _ a => a.references
  | .empty | .one _ _ | .dot _ | .spot _ | .keep | .verb _ => []

def startsLine : Expression → Bool
  | .both a _ | .bracket a | .group _ a => a.startsLine
  | .either a b => a.startsLine && b.startsLine
  | .spot s =>
    match s with
    | .start | .head _ => true
    | _ => false
  | .repeated (.dot _) 0 none greed => greed ≠ .possessive
  | _ => false

def refersBack : Expression → Bool
  | .back _ _ | .call _ | .verb _ => true
  | .both a b | .either a b => a.refersBack || b.refersBack
  | .choice _ a b => a.refersBack || b.refersBack
  | .choiceBy l a b => l.refersBack || a.refersBack || b.refersBack
  | .repeated a _ _ _ | .atomic a | .bracket a | .group _ a | .look _ _ a => a.refersBack
  | .empty | .one _ _ | .dot _ | .spot _ | .keep => false

def least : Expression → Nat
  | .one _ _ | .dot _ => 1
  | .both a b => a.least + b.least
  | .either a b | .choice _ a b | .choiceBy _ a b => min a.least b.least
  | .repeated a least _ _ => least * a.least
  | .atomic a | .bracket a | .group _ a => a.least
  | .empty | .spot _ | .back _ _ | .look _ _ _ | .keep | .call _ | .verb _ => 0

def required? : Expression → Option ((Char → Bool) × Char)
  | .one accepts symbol => symbol.map (accepts, ·)
  | .both a b => b.required? <|> a.required?
  | .either a b =>
    match a.required?, b.required? with
    | some x, some y => if x.2 = y.2 then some x else none
    | _, _ => none
  | .repeated a least _ _ => if least = 0 then none else a.required?
  | .atomic a | .bracket a | .group _ a => a.required?
  | .empty | .dot _ | .spot _ | .back _ _ | .look _ _ _ | .keep | .call _ | .choice _ _ _
  | .choiceBy _ _ _ | .verb _ => none

/-- What is known of the first symbol of matches. -/
inductive Leading
  | nothing
  | unknown
  | symbol (c : Char)
  deriving DecidableEq

def firstTaken : Expression → Leading
  | .one _ symbol => symbol.elim .unknown .symbol
  | .dot _ | .back _ _ | .call _ => .unknown
  | .both a b => if a.firstTaken = .nothing then b.firstTaken else a.firstTaken
  | .either a b | .choice _ a b | .choiceBy _ a b =>
    if a.firstTaken = b.firstTaken then a.firstTaken else .unknown
  | .repeated a least _ _ =>
    if least = 0 && a.firstTaken ≠ .nothing then .unknown else a.firstTaken
  | .atomic a | .bracket a | .group _ a => a.firstTaken
  | .empty | .spot _ | .look _ _ _ | .keep | .verb _ => .nothing

/-- What is known of the first symbol that is looked for ahead before anything is taken; `looking`
tells that this is within what is looked for. -/
def firstAhead (looking : Bool) : Expression → Leading
  | .empty | .spot (.wordEdge _) | .look false _ _ | .look true false _ => .nothing
  | .one _ (some c) => if looking then .symbol c else .unknown
  | .look true true a =>
    let first := a.firstAhead true
    if first = .nothing then .unknown else first
  | .atomic a | .bracket a | .group _ a =>
    let first := a.firstAhead looking
    if first = .nothing then .unknown else first
  | .repeated a least _ _ =>
    let first := a.firstAhead looking
    if least = 0 || first = .nothing then .unknown else first
  | .both a b =>
    let first := a.firstAhead looking
    if first = .nothing then b.firstAhead looking else first
  | .either a b =>
    let first := a.firstAhead looking
    if first = b.firstAhead looking then first else .unknown
  | .one _ none | .dot _ | .spot _ | .back _ _ | .keep | .choice _ _ _ | .choiceBy _ _ _ | .call _
  | .verb _ => .unknown

def foresees (r : Expression) : Bool :=
  match r.firstTaken, r.firstAhead false with
  | .symbol _, _ => false
  | _, .symbol _ => true
  | _, _ => false

def mayEndEarly : Expression → Bool
  | .verb v => v = .accept
  | .both a b | .either a b | .choice _ a b => a.mayEndEarly || b.mayEndEarly
  | .choiceBy l a b => l.mayEndEarly || a.mayEndEarly || b.mayEndEarly
  | .repeated a _ _ _ | .atomic a | .bracket a | .group _ a | .look _ _ a => a.mayEndEarly
  | .empty | .one _ _ | .dot _ | .spot _ | .back _ _ | .keep | .call _ => false

end Expression
end PipelineShell.Userland.Backtracking
