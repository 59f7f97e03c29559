import PipelineShell.Userland.Backtracking.Reader
import PipelineShell.Userland.Regex

/-!
# Matching with backtracking

Expressions compiled to instructions, with a stack of the alternatives that are left.
-/

namespace PipelineShell.Userland.Backtracking

/-- An instruction. -/
inductive Instruction
  | accept
  | take (accepts : Char → Bool) (next : Nat)
  | takeRun (accepts : Char → Bool) (least : Nat) (most : Option Nat) (greed : Greed) (next : Nat)
  | test (s : Spot) (next : Nat)
  | fork (first second : Nat)
  | openGroup (next : Nat)
  | closeGroup (number : Nat) (next : Nat)
  | finishCall (number : Nat) (next : Nat)
  | back (numbers : List Nat) (fold : Bool) (next : Nat)
  | attempt (otherwise : Option Nat) (next : Nat)
  | settle (restores : Bool) (next : Nat)
  | stepBack (count : Nat) (next : Nat)
  | keep (next : Nat)
  | passed (next : Nat)
  | ifMatched (numbers : List Nat) (yes no : Nat)
  | ifUsed (number : Option (List Nat)) (yes no : Nat)
  | call (number : Nat) (next : Nat)
  | beginRound (next : Nat)
  | endRound (again next : Nat)
  | verb (v : Verb) (next : Nat)

/-- Instructions with the groups that are used as expressions, and where those begin. -/
structure Code where
  all : Array Instruction := #[]
  called : List Nat := []
  entries : List (Nat × Nat) := []

namespace Code

def add (c : Code) (i : Instruction) : Nat × Code :=
  (c.all.size, { c with all := c.all.push i })

def isFull (c : Code) : Bool := c.all.size > 40000

def copies (f : Nat → Code → Nat × Code) : (count : Nat) → (next : Nat) → Code → Nat × Code
  | 0, next, c => (next, c)
  | count + 1, next, c =>
    if c.isFull then (next, c)
    else
      let (next, c) := copies f count next c
      f next c

def choose (greed : Greed) (more done : Nat) : Instruction :=
  if greed = .lazy then .fork done more else .fork more done

def optionals (f : Nat → Code → Nat × Code) (greed : Greed) (next : Nat) : (count : Nat) → Code →
    Nat × Code
  | 0, c => (next, c)
  | count + 1, c =>
    if c.isFull then (next, c)
    else
      let (entry, c) := optionals f greed next count c
      let (entry, c) := f entry c
      c.add (choose greed entry next)

/-- Adds instructions any number of times; `guarded` tells that they may take nothing. -/
def loop (f : Nat → Code → Nat × Code) (greed : Greed) (guarded : Bool) (next : Nat) (c : Code) :
    Nat × Code :=
  let (here, c) := c.add (.fork next next)
  let (entry, c) :=
    if guarded then
      let (stop, c) := c.add (.endRound here next)
      let (entry, c) := f stop c
      c.add (.beginRound entry)
    else f here c
  (here, { c with all := c.all.setIfInBounds here (choose greed entry next) })

def kind? : Expression → Option (Char → Bool)
  | .one p _ => some p
  | .dot all => some fun c => Regex.isDecoded c && (all || c ≠ '\n')
  | .bracket r => kind? r
  | _ => none

def behind (f : Expression → Nat → Code → Nat × Code) (next : Nat) : List Expression → Code →
    Nat × Code
  | [], c => c.add (.verb .fail next)
  | [r], c =>
    let (entry, c) := f r next c
    c.add (.stepBack (r.width?.getD 0) entry)
  | r :: rest, c =>
    let (second, c) := behind f next rest c
    let (entry, c) := f r next c
    let (first, c) := c.add (.stepBack (r.width?.getD 0) entry)
    c.add (.fork first second)

end Code

open Code

/-- Adds the instructions of an expression, which go on at `next`; the first of them comes out. The
fuel bounds how deep expressions are in each other. -/
def emit (o : Outcome) : (fuel : Nat) → Expression → (next : Nat) → Code → Nat × Code
  | 0, _, next, c => (next, c)
  | fuel + 1, r, next, c =>
    let once (i : Instruction) : Nat × Code := c.add i
    /- Something that is decided once and for all. -/
    let settled (restores : Bool) (body : Nat → Code → Nat × Code) : Nat × Code :=
      let (stop, c) := c.add (.settle restores next)
      let (entry, c) := body stop c
      c.add (.attempt none entry)
    let looking (ahead : Bool) (body : Expression) (stop : Nat) (c : Code) : Nat × Code :=
      if ahead then emit o fuel body stop c
      else behind (emit o fuel) stop body.alternatives c
    if c.isFull then (next, c)
    else
      match r with
      | .empty => (next, c)
      | .one p _ => once (.take p next)
      | .dot all => once (.take (fun c => Regex.isDecoded c && (all || c ≠ '\n')) next)
      | .spot s => once (.test s next)
      | .keep => once (.keep next)
      | .verb v => once (.verb v next)
      | .both a b =>
        let (next, c) := emit o fuel b next c
        emit o fuel a next c
      | .either a b =>
        let (second, c) := emit o fuel b next c
        let (first, c) := emit o fuel a next c
        c.add (.fork first second)
      | .bracket a =>
        let (stop, c) := c.add (.passed next)
        emit o fuel a stop c
      | .atomic a => settled false (emit o fuel a)
      | .look ahead true a => settled true (looking ahead a)
      | .look ahead false a =>
        let (stop, c) := c.add (.verb .fail next)
        let (stop, c) := c.add (.settle true stop)
        let (entry, c) := looking ahead a stop c
        c.add (.attempt (some next) entry)
      | .repeated a least most greed =>
        match kind? a with
        | some p => once (.takeRun p least most greed next)
        | none =>
          let body := emit o fuel a
          let whole (next : Nat) (c : Code) : Nat × Code :=
            let (next, c) :=
              match most with
              | none => loop body greed a.mayBeEmpty next c
              | some most => optionals body greed next (most - least) c
            copies body least next c
          if greed = .possessive then settled false whole else whole next c
      | .group n a =>
        let (next, c) := if c.called.contains n then c.add (.finishCall n next) else (next, c)
        let (stop, c) := c.add (.closeGroup n next)
        let (entry, c) := emit o fuel a stop c
        let (entry, c) := c.add (.openGroup entry)
        (entry, { c with entries := (n, entry) :: c.entries })
      | .back r fold => once (.back (o.groupsOf r) fold next)
      | .call r => once (.call ((o.groupsOf r).headD 0) next)
      | .choice cond yes no =>
        let (no, c) := emit o fuel no next c
        let (yes, c) := emit o fuel yes next c
        match cond with
        | .matched r => c.add (.ifMatched (o.groupsOf r) yes no)
        | .used r => c.add (.ifUsed (r.map o.groupsOf) yes no)
        | .never => (no, c)
      | .choiceBy l yes no =>
        let (no, c) := emit o fuel no next c
        let (yes, c) := emit o fuel yes next c
        match l with
        | .look ahead wanted a =>
          let (stop, c) := c.add (.settle true (if wanted then yes else no))
          let (entry, c) := looking ahead a stop c
          c.add (.attempt (some (if wanted then no else yes)) entry)
        | _ => (yes, c)

def depthLimit : Nat := 100000

/-! ### Following instructions -/

/-- Where a group that is used as an expression goes on: its number, the place where it was used,
what comes next, how many groups were open, and what had been matched. -/
structure Return where
  number : Nat
  place : Nat
  next : Nat
  depth : Nat
  groups : List (Nat × Nat × Nat)

/-- All that is known at a place. -/
structure Standing where
  place : Nat
  start : Nat
  groups : List (Nat × Nat × Nat) := []
  opened : List Nat := []
  marks : List (Nat × Nat) := []
  returns : List Return := []
  rounds : List Nat := []

/-- What can be come back to. -/
inductive Choice
  | resume (next : Nat) (s : Standing)
  | fewer (least : Nat) (next : Nat) (s : Standing)
  | more (accepts : Char → Bool) (most : Nat) (next : Nat) (s : Standing)
  | stop (resume : Option Nat)

/-- A line in which matches are tried. -/
structure Context where
  line : Array Char
  code : Array Instruction
  entries : List (Nat × Nat)
  wide : Bool
  origin : Nat
  headless : Bool
  tailless : Bool

/-- What has come of trying. -/
inductive Result
  | matched (first last : Nat)
  | failed
  | skipped (place : Option Nat)
  | exhausted

/-- What comes next. -/
inductive Move
  | go (counts : Bool) (here : Nat) (s : Standing) (pile : List Choice) (height : Nat)
  | back (pile : List Choice) (height : Nat)
  | stop (r : Result)

namespace Context

def isWordAt (x : Context) (place : Nat) : Bool := x.line[place]?.any Kind.isWord

def holds (x : Context) (place : Nat) : Spot → Bool
  | .start => place = 0
  | .head newlines =>
    (place = 0 && !x.headless) ||
      (newlines && place > 0 && place < x.line.size && x.line[place - 1]? = some '\n')
  | .finish strict =>
    place = x.line.size || (!strict && place + 1 = x.line.size && x.line[place]? = some '\n')
  | .tail newlines =>
    (place = x.line.size && !x.tailless) || (newlines && x.line[place]? = some '\n')
  | .origin => place = x.origin
  | .wordEdge wanted =>
    ((place > 0 && x.isWordAt (place - 1)) != x.isWordAt place) = wanted

def reach (x : Context) (accepts : Char → Bool) (limit : Nat) (place : Nat) : Nat :=
  if h : place < x.line.size then
    if place < limit && accepts x.line[place] then reach x accepts limit (place + 1) else place
  else place
termination_by x.line.size - place

def again? (x : Context) (s : Standing) (numbers : List Nat) (fold : Bool) : Option Nat :=
  match numbers.findSome? fun n => s.groups.lookup n with
  | none => none
  | some (b, e) =>
    let line : Regex.Line := ⟨x.line, x.wide⟩
    if line.sameParts fold b s.place (e - b) then some (s.place + (e - b)) else none

def cut : (pile : List Choice) → (height wanted : Nat) → List Choice
  | [], _, _ => []
  | c :: pile, height, wanted =>
    if height ≤ wanted then c :: pile else cut pile (height - 1) wanted

def step (x : Context) (i : Instruction) (s : Standing) (pile : List Choice) (height : Nat) :
    Move :=
  let go (next : Nat) (s : Standing) : Move := .go false next s pile height
  let fail : Move := .back pile height
  match i with
  | .accept =>
    match s.returns with
    | r :: rest =>
      if r.number = 0 then go r.next { s with returns := rest, groups := r.groups }
      else .stop (.matched s.start s.place)
    | [] => .stop (.matched s.start s.place)
  | .take accepts next =>
    match x.line[s.place]? with
    | some c => if accepts c then go next { s with place := s.place + 1 } else fail
    | none => fail
  | .takeRun accepts least most greed next =>
    let first := x.reach accepts (s.place + least) s.place
    if first < s.place + least then fail
    else
      let limit := (most.map (s.place + ·)).getD x.line.size
      if greed = .lazy then
        let s := { s with place := first }
        if first < limit then .go true next s (.more accepts limit next s :: pile) (height + 1)
        else .go true next s pile height
      else
        let last := x.reach accepts limit first
        let s := { s with place := last }
        if greed = .greedy && first < last then
          .go true next s (.fewer first next s :: pile) (height + 1)
        else .go true next s pile height
  | .test spot next => if x.holds s.place spot then go next s else fail
  | .fork first second => .go false first s (.resume second s :: pile) (height + 1)
  | .openGroup next => go next { s with opened := s.place :: s.opened }
  | .closeGroup n next =>
    match s.opened with
    | b :: opened =>
      let groups := (n, b, s.place) :: s.groups.filter (·.1 ≠ n)
      .go true next { s with opened, groups } pile height
    | [] => fail
  | .finishCall n next =>
    match s.returns with
    | r :: rest =>
      if r.number = n && r.depth = s.opened.length then
        go r.next { s with returns := rest, groups := r.groups }
      else go next s
    | [] => go next s
  | .back numbers fold next =>
    match x.again? s numbers fold with
    | some place => go next { s with place }
    | none => fail
  | .attempt otherwise next =>
    let marked := { s with marks := (height, s.place) :: s.marks }
    match otherwise with
    | none => go next marked
    | some n => .go false next marked (.resume n s :: pile) (height + 1)
  | .settle restores next =>
    match s.marks with
    | (wanted, place) :: marks =>
      let s := { s with marks, place := if restores then place else s.place }
      .go false next s (cut pile height wanted) (min height wanted)
    | [] => fail
  | .stepBack count next =>
    if s.place < count then fail else go next { s with place := s.place - count }
  | .keep next => go next { s with start := s.place }
  | .passed next => .go true next s pile height
  | .ifMatched numbers yes no =>
    go (if numbers.any fun n => (s.groups.lookup n).isSome then yes else no) s
  | .ifUsed numbers yes no =>
    let isUsed : Bool :=
      match s.returns, numbers with
      | [], _ => false
      | _, none => true
      | r :: _, some numbers => numbers.contains r.number
    go (if isUsed then yes else no) s
  | .call n next =>
    if s.returns.any fun r => r.number = n && r.place = s.place then .stop .exhausted
    else
      match x.entries.lookup n with
      | some entry =>
        go entry { s with returns := ⟨n, s.place, next, s.opened.length, s.groups⟩ :: s.returns }
      | none => fail
  | .beginRound next => go next { s with rounds := s.place :: s.rounds }
  | .endRound again next =>
    match s.rounds with
    | b :: rounds => go (if b = s.place then next else again) { s with rounds }
    | [] => fail
  | .verb v next =>
    match v with
    | .fail => fail
    | .accept => .stop (.matched s.start s.place)
    | .commit => .go false next s (.stop none :: pile) (height + 1)
    | .prune => .go false next s (.stop (some 0) :: pile) (height + 1)
    | .skip => .go false next s (.stop (some s.place) :: pile) (height + 1)

def resume (x : Context) (c : Choice) (pile : List Choice) (height : Nat) : Move :=
  match c with
  | .resume i s => .go false i s pile height
  | .fewer least next s =>
    let s := { s with place := s.place - 1 }
    if least < s.place then .go true next s (.fewer least next s :: pile) (height + 1)
    else .go true next s pile height
  | .more accepts most next s =>
    match x.line[s.place]? with
    | some c =>
      if accepts c then
        let s := { s with place := s.place + 1 }
        if s.place < most then .go true next s (.more accepts most next s :: pile) (height + 1)
        else .go true next s pile height
      else .back pile height
    | none => .back pile height
  | .stop place => .stop (.skipped place)

/-- Follows instructions until it is clear what comes of them. Not more than `count` things are
tried; the fuel bounds the steps. -/
def run (x : Context) : (fuel : Nat) → (count : Nat) → Move → Result
  | 0, _, _ | _, 0, _ => .exhausted
  | _ + 1, _ + 1, .stop r => r
  | _ + 1, _ + 1, .back [] _ => .failed
  | fuel + 1, count + 1, .back (c :: pile) height =>
    run x fuel (count + 1) (x.resume c pile (height - 1))
  | fuel + 1, count + 1, .go counts here s pile height =>
    match x.code[here]? with
    | some i => run x fuel (if counts then count else count + 1) (x.step i s pile height)
    | none => .failed

end Context

/-- An expression that is ready to be tried. -/
structure Program where
  code : Array Instruction
  entries : List (Nat × Nat)
  entry : Nat
  wide : Bool
  startsLine : Bool
  least : Nat
  required : Option (Char → Bool)
  foresees : Bool

def Expression.calls : Expression → List Reference
  | .call r => [r]
  | .both a b | .either a b | .choice _ a b => a.calls ++ b.calls
  | .choiceBy l a b => l.calls ++ a.calls ++ b.calls
  | .repeated a _ _ _ | .atomic a | .bracket a | .group _ a | .look _ _ a => a.calls
  | .empty | .one _ _ | .dot _ | .spot _ | .back _ _ | .keep | .verb _ => []

def Program.ofOutcome (wide : Bool) (o : Outcome) : Except Chars Program :=
  let called := o.expression.calls.flatMap o.groupsOf
  let required := o.expression.required?
  let (entry, c) := emit o depthLimit o.expression 0 { all := #[.accept], called }
  if c.isFull then refuse "regular expression is too large"
  else
    .ok
      { code := c.all, entries := (0, entry) :: c.entries, entry, wide
        startsLine := o.expression.startsLine && !o.expression.refersBack
        least := if o.expression.mayEndEarly then 0 else o.expression.least
        required := if o.expression.mayEndEarly then none else required.map (·.1)
        foresees := o.expression.foresees && required.all fun (_, c) => !wide || c.toNat < 128 }

namespace Program

def limit : Nat := 10000000

def stepLimit : Nat := 1000000000

def lastStart (p : Program) (line : Array Char) : Option Nat :=
  if line.size < p.least then none
  else
    let room := line.size - p.least
    match p.required with
    | none => some room
    | some accepts =>
      let upTo := line.size - (line.toList.reverse.takeWhile (!accepts ·)).length
      let needed := if p.foresees then 2 else 1
      if upTo < needed then none else some (min room (upTo - needed))

/-- Looks for the first match that begins at a place or behind it, up to a last place; `count`
bounds how many places are looked at. -/
def searchFrom (p : Program) (x : Context) (last : Nat) : (count : Nat) → (place : Nat) → Result
  | 0, _ => .failed
  | count + 1, place =>
    if place > last then .failed
    else if p.startsLine && place > x.origin && x.line[place - 1]? ≠ some '\n' then
      searchFrom p x last count (place + 1)
    else
      match x.run stepLimit limit (.go false p.entry { place, start := place } [] 0) with
      | .failed => searchFrom p x last count (place + 1)
      | .skipped (some next) => searchFrom p x last count (max next (place + 1))
      | .skipped none => .failed
      | r => r

/-- The first match in a line from a place on: its beginning and its end. The flags tell whether no
line begins where this one does, and whether none ends where it does. -/
def search (p : Program) (line : Array Char) (headless tailless : Bool) (place : Nat) :
    Except Chars (Option (Nat × Nat)) :=
  let x : Context :=
    { line, code := p.code, entries := p.entries, wide := p.wide, origin := place, headless
      tailless }
  match p.lastStart line with
  | none => .ok none
  | some last =>
    match p.searchFrom x last (line.size + 1 - place) place with
    | .matched b e => .ok (some (b, e))
    | .exhausted => refuse "exceeded PCRE's backtracking limit"
    | _ => .ok none

end Program
end PipelineShell.Userland.Backtracking
