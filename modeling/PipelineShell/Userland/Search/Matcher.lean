import PipelineShell.Userland.Backtracking.Fragment
import PipelineShell.Userland.Regex.Automaton
import PipelineShell.Userland.Regex.Location
import PipelineShell.Userland.Search.Options

/-!
# Matching lines

Which lines match, and which parts of them, by automaton or by following groups.
-/

namespace PipelineShell.Userland.Search

/-- A place in a line. -/
structure Sight where
  line : Array Char
  place : Nat := 0
  before : Option Char := none
  passed : Bool := false
  rest : Chars

def Sight.ofLine (line : Chars) : Sight := { line := line.toArray, rest := line }

def Sight.advance (s : Sight) (n : Nat) : Sight :=
  if n = 0 then s
  else
    { s with
      place := s.place + n, before := s.line[s.place + n - 1]?, passed := false
      rest := s.rest.drop n }

/-- What decides which lines are selected, and which of their parts are set off. A part is given by
the places before and behind it; it may have the end of the line in it. -/
structure Matcher where
  wide : Bool
  accepts : Chars → Except Chars Bool
  next : Sight → Except Chars (Option (Nat × Nat))

def Matcher.partsFrom (m : Matcher) : (fuel : Nat) → Sight → Except Chars (List (Nat × Nat))
  | 0, _ => .ok []
  | fuel + 1, s =>
    if s.place > s.line.size then .ok []
    else
      match m.next s with
      | .error e => .error e
      | .ok none => .ok []
      | .ok (some (b, e)) =>
        if e > b then (m.partsFrom fuel (s.advance (e - s.place))).map ((b, e) :: ·)
        else m.partsFrom fuel { s.advance (b + 1 - s.place) with passed := true }

def Matcher.parts (m : Matcher) (line : Chars) : Except Chars (List (Nat × Nat)) :=
  m.partsFrom (line.length + 2) (.ofLine line)

/-- What looks for the parts of lines. -/
structure Finder where
  manner : Regex.Manner
  wholeLines : Bool
  wholeWords : Bool
  plain : Option Regex.Automaton
  referring : List Regex

namespace Finder

def isWhole (line : Regex.Line) (b e : Nat) : Bool :=
  let isWordAt (place : Nat) : Bool := line.symbols[place]?.any (Regex.isWord line.wide)
  !(b > 0 && isWordAt (b - 1)) && !isWordAt e

/-- The first part from a place on that matches an expression, and the longest of those that begin
there; with `words`, of those that are whole. -/
def first (r : Regex) (line : Regex.Line) (fold words : Bool) (place : Nat) : Option (Nat × Nat) :=
  (List.range (line.symbols.size + 1 - place)).findSome? fun i =>
    let b := place + i
    let ends := (r.ends line fold b).filter fun e => !words || isWhole line b e
    ends.max?.map fun e => (b, e)

def better (x y : Option (Nat × Nat)) : Option (Nat × Nat) :=
  match x, y with
  | some (b, e), some (b', e') =>
    if b' < b || (b' = b && e < e') then some (b', e') else some (b, e)
  | x, none => x
  | none, y => y

def find (f : Finder) (words : Bool) (s : Sight) : Option (Nat × Nat) :=
  f.referring.foldl (fun best r =>
      better best (first r ⟨s.line, f.manner.wide⟩ f.manner.fold words s.place))
    (f.plain.bind (·.search words s.place s.before s.rest))

/-- The first part from a place on that is asked for. If whole lines and whole words are asked for,
it is the rest of the line with its end, or nothing. -/
def next (f : Finder) (s : Sight) : Option (Nat × Nat) :=
  if f.wholeLines && f.wholeWords then
    if f.find false s = some (s.place, s.line.size) then some (s.place, s.line.size + 1) else none
  else f.find f.wholeWords s

def accepts (f : Finder) (line : Chars) : Bool :=
  if f.wholeLines then f.find false (.ofLine line) = some (0, line.length)
  else if f.wholeWords then (f.find true (.ofLine line)).isSome
  else
    f.plain.any (·.occurs line) ||
      (!f.referring.isEmpty && ({ f with plain := none }.find false (.ofLine line)).isSome)

end Finder

def Matcher.ofPatterns (k : Request) (m : Regex.Manner) (patterns : List Pattern) :
    Except (List Chars) (Matcher × List Chars) :=
  let faults := patterns.filterMap fun p =>
    match Regex.Location.read m p.text with
    | .ok _ => none
    | .error e =>
      match p.origin with
      | some (file, line) => some (file ++ ':' :: Chars.ofNat line ++ ": ".toList ++ e)
      | none => some e
  if !faults.isEmpty then .error faults
  else
    let text := Text.join ['\n'] (patterns.map (·.text))
    match Regex.Selection.read m (Regex.Selection.wrapped m k.wholeWords k.wholeLines text) with
    | .error e => .error [e]
    | .ok o =>
      let (referring, plain) := patterns.partition fun p => Regex.Location.mayReferBack p.text
      let read (t : Chars) : Option Regex := (Regex.Location.read m t).toOption
      let finder : Finder :=
        { manner := m, wholeLines := k.wholeLines, wholeWords := k.wholeWords
          plain :=
            if plain.isEmpty then none
            else
              (read (Text.join ['\n'] (plain.map (·.text)))).map (Regex.Automaton.ofRegex m.wide)
          referring := referring.filterMap (read ·.text) }
      let selecting := Regex.Automaton.ofRegex m.wide o.regex
      .ok
        ({ wide := m.wide
           accepts := fun line =>
            .ok (selecting.occurs line && (!o.searches || finder.accepts line))
           next := fun s => .ok (finder.next s) },
          o.warnings)

def Matcher.ofTexts (k : Request) (m : Regex.Manner) (texts : List Chars) : Matcher :=
  let literal (t : Chars) : Regex := (t.map m.literal).foldr .append .empty
  let finder : Finder :=
    { manner := m, wholeLines := k.wholeLines, wholeWords := k.wholeWords
      plain := (Regex.any? (texts.map literal)).map (Regex.Automaton.ofRegex m.wide)
      referring := [] }
  { wide := m.wide
    accepts := fun line => .ok (finder.accepts line)
    next := fun s => .ok (finder.next s) }

def Matcher.ofExpression (k : Request) (m : Regex.Manner) (text : Chars) : Except Chars Matcher :=
  let text :=
    if k.wholeWords && !k.wholeLines then "(?<!\\w)(?:".toList ++ text ++ ")(?!\\w)".toList
    else text
  match Backtracking.read { fold := m.fold, wide := m.wide } text with
  | .error e => .error e
  | .ok o =>
    let o := if k.wholeLines then { o with expression := o.expression.ofLine } else o
    (Backtracking.Program.ofOutcome m.wide o).map fun p =>
      { wide := m.wide
        accepts := fun line => (p.find line.toArray false 0).map Option.isSome
        next := fun s =>
          if s.place > 0 && s.place = s.line.size then .ok none
          else p.find s.line (s.passed && s.before.any (128 ≤ ·.toNat)) s.place }

def Matcher.compile (c : Call) (k : Request) (patterns : List Pattern) :
    Except (List Chars) (Matcher × List Chars) :=
  let wide := c.isUtf8
  let patterns := patterns.map fun p =>
    { p with text := Regex.symbols wide (Octets.toBytes p.text) }
  let m : Regex.Manner :=
    { extended := k.way = some .extended, fold := k.fold, wide, byLines := k.ending ≠ 0 }
  if patterns.isEmpty then
    .ok ({ wide, accepts := fun _ => .ok false, next := fun _ => .ok none }, [])
  else
    match k.way, patterns with
    | some .fixed, _ => .ok (Matcher.ofTexts k m (patterns.map (·.text)), [])
    | some .perl, [p] =>
      match Matcher.ofExpression k m p.text with
      | .error e => .error [e]
      | .ok m => .ok (m, [])
    | some .perl, _ => .error ["the -P option only supports a single pattern".toList]
    | _, _ => Matcher.ofPatterns k m patterns

end PipelineShell.Userland.Search
