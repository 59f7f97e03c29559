import PipelineShell.Userland.Ordering

/-!
# Keys of lines

Lines are compared key by key, and as a whole if all keys are equal.
-/

namespace PipelineShell.Userland.Sorting

/-- The bytes that a comparison passes over. -/
inductive Ignored
  | nothing
  | nonDictionary
  | nonPrinting
  deriving DecidableEq

/-- How a key is compared. -/
structure Manner where
  blanksAtStart : Bool := false
  blanksAtEnd : Bool := false
  ignored : Ignored := .nothing
  fold : Bool := false
  general : Bool := false
  human : Bool := false
  month : Bool := false
  numeric : Bool := false
  random : Bool := false
  version : Bool := false
  reverse : Bool := false
  deriving DecidableEq

/-- A key: the fields and characters from which it begins and up to which it goes, counted from
zero; an end of zero characters means the whole field. -/
structure Key where
  start : Option (Nat × Nat) := none
  stop : Option (Nat × Nat) := none
  manner : Manner := {}
  isOld : Bool := false
  deriving DecidableEq

/-- What to do. -/
structure Job where
  manner : Manner := {}
  keys : List Key := []
  separator : Option UInt8 := none
  unique : Bool := false
  stable : Bool := false
  merge : Bool := false
  check : Option Char := none
  debug : Bool := false
  outfile : Option Chars := none
  source : Option Chars := none
  chance : Option Chars := none
  packer : Option Chars := none
  ending : UInt8 := 10

/-- Adds the letters of a manner; the rest of the text is left. The flags tell for which blanks the
letter for blanks stands. -/
def Manner.addLetters (m : Manner) (atStart atEnd : Bool) : Chars → Manner × Chars
  | [] => (m, [])
  | c :: rest =>
    match c with
    | 'b' =>
      { m with
        blanksAtStart := m.blanksAtStart || atStart
        blanksAtEnd := m.blanksAtEnd || atEnd }.addLetters atStart atEnd rest
    | 'd' => { m with ignored := .nonDictionary }.addLetters atStart atEnd rest
    | 'f' => { m with fold := true }.addLetters atStart atEnd rest
    | 'g' => { m with general := true }.addLetters atStart atEnd rest
    | 'h' => { m with human := true }.addLetters atStart atEnd rest
    | 'i' =>
      { m with
        ignored := if m.ignored = Ignored.nothing then .nonPrinting else m.ignored }.addLetters
        atStart atEnd rest
    | 'M' => { m with month := true }.addLetters atStart atEnd rest
    | 'n' => { m with numeric := true }.addLetters atStart atEnd rest
    | 'R' => { m with random := true }.addLetters atStart atEnd rest
    | 'r' => { m with reverse := true }.addLetters atStart atEnd rest
    | 'V' => { m with version := true }.addLetters atStart atEnd rest
    | c => (m, c :: rest)

def Manner.isDefault (m : Manner) : Bool := { m with reverse := false } = {}

def Manner.isConsistent (m : Manner) : Bool :=
  let ways := [m.numeric, m.general, m.human, m.month,
    m.version || m.random || decide (m.ignored ≠ .nothing)]
  (ways.filter id).length ≤ 1

def Manner.letters (m : Manner) : Chars :=
  [('d', decide (m.ignored = .nonDictionary)), ('f', m.fold), ('g', m.general), ('h', m.human),
    ('i', decide (m.ignored = .nonPrinting)), ('M', m.month), ('n', m.numeric), ('R', m.random),
    ('V', m.version)].filterMap fun p => if p.2 then some p.1 else none

/-- What counts of a text that a key means. -/
inductive Value
  | text (t : Bytes)
  | version (t : Bytes)
  | number (n : Ordering.Number)
  | scaled (unit : Int) (n : Ordering.Number)
  | real (r : Option Floating.Real)
  | month (n : Nat)

def Manner.value (m : Manner) (t : Bytes) : Value :=
  let blank (t : Bytes) : Bytes := t.dropWhile Ordering.isBlank
  if m.numeric then .number (Ordering.number (blank t))
  else if m.general then .real (Ordering.scientific t)
  else if m.human then .scaled (Ordering.unitOf (blank t)) (Ordering.number (blank t))
  else if m.month then .month (Ordering.month t)
  else
    let kept :=
      match m.ignored with
      | .nothing => t
      | .nonDictionary =>
        t.filter fun b => Ordering.isBlank b || Ordering.isLetter b || Ordering.isDigit b
      | .nonPrinting => t.filter fun b => 32 ≤ b && b ≤ 126
    let t := if m.fold then kept.map Ordering.upper else kept
    if m.version then .version t else .text t

def Value.compare : Value → Value → Ordering
  | .text s, .text t => Ordering.bytes s t
  | .version s, .version t => Ordering.version s t
  | .number m, .number n => m.compare n
  | .scaled u m, .scaled v n =>
    match Ord.compare u v with
    | .eq => m.compare n
    | o => o
  | .real s, .real t => Ordering.compareReals s t
  | .month m, .month n => Ord.compare m n
  | _, _ => .eq

def skipFields (separator : Option UInt8) : (fields : Nat) → Nat × Bytes → Nat × Bytes
  | 0, state => state
  | fields + 1, (passed, line) =>
    match separator with
    | some tab =>
      let field := line.takeWhile (· ≠ tab)
      match line.drop field.length with
      | [] => (passed + field.length, [])
      | _ :: rest => skipFields separator fields (passed + field.length + 1, rest)
    | none =>
      let blanks := line.takeWhile Ordering.isBlank
      let rest := line.drop blanks.length
      let field := rest.takeWhile (!Ordering.isBlank ·)
      if line.isEmpty then (passed, line)
      else
        skipFields separator fields
          (passed + blanks.length + field.length, rest.drop field.length)

def skipBlanks (state : Nat × Bytes) : Nat × Bytes :=
  let blanks := state.2.takeWhile Ordering.isBlank
  (state.1 + blanks.length, state.2.drop blanks.length)

def Key.beginning (k : Key) (separator : Option UInt8) (line : Bytes) : Nat :=
  let (fields, chars) := k.start.getD (0, 0)
  let state := skipFields separator fields (0, line)
  let state := if k.manner.blanksAtStart then skipBlanks state else state
  min line.length (state.1 + chars)

def Key.ending (k : Key) (separator : Option UInt8) (line : Bytes) : Nat :=
  match k.stop with
  | none => line.length
  | some (fields, 0) =>
    let state := skipFields separator fields (0, line)
    match separator with
    | some tab => state.1 + (state.2.takeWhile (· ≠ tab)).length
    | none => (skipFields none 1 state).1
  | some (fields, chars) =>
    let state := skipFields separator fields (0, line)
    let state := if k.manner.blanksAtEnd then skipBlanks state else state
    min line.length (state.1 + chars)

def Key.part (k : Key) (separator : Option UInt8) (line : Bytes) : Bytes :=
  if k.start.isNone && k.stop.isNone && !k.manner.blanksAtStart then line
  else
    let first := k.beginning separator line
    (line.drop first).take (k.ending separator line - first)

/-- A line with what counts of it for the keys. -/
structure Line where
  bytes : Bytes
  values : List Value

def Job.line (k : Job) (bytes : Bytes) : Line :=
  ⟨bytes, k.keys.map fun key => key.manner.value (key.part k.separator bytes)⟩

def compareKeys : List Key → List Value → List Value → Ordering
  | key :: keys, s :: ss, t :: ts =>
    match s.compare t with
    | .eq => compareKeys keys ss ts
    | o => if key.manner.reverse then o.swap else o
  | _, _, _ => .eq

def Job.compare (k : Job) (a b : Line) : Ordering :=
  let byKeys := compareKeys k.keys a.values b.values
  if byKeys ≠ .eq || (!k.keys.isEmpty && (k.unique || k.stable)) then byKeys
  else
    let whole := Ordering.bytes a.bytes b.bytes
    if k.manner.reverse then whole.swap else whole

def Job.dropEqual (k : Job) (done : List Line) : List Line → List Line
  | [] => done.reverse
  | l :: rest =>
    match done with
    | last :: _ =>
      if k.compare last l = .eq then k.dropEqual done rest else k.dropEqual (l :: done) rest
    | [] => k.dropEqual [l] rest

def Job.sorted (k : Job) (lines : List Line) : List Line :=
  let lines := lines.mergeSort fun a b => k.compare a b != .gt
  if k.unique then k.dropEqual [] lines else lines

def Job.mergeTwo (k : Job) : (fuel : Nat) → (done : List Line) → List Line → List Line → List Line
  | 0, done, _, _ => done.reverse
  | _ + 1, done, [], ts => done.reverse ++ ts
  | _ + 1, done, ss, [] => done.reverse ++ ss
  | fuel + 1, done, s :: ss, t :: ts =>
    if k.compare s t = .gt then k.mergeTwo fuel (t :: done) (s :: ss) ts
    else k.mergeTwo fuel (s :: done) ss (t :: ts)

def Job.merged (k : Job) (rows : List (List Line)) : List Line :=
  let lines := rows.foldr (fun row acc =>
    k.mergeTwo (row.length + acc.length + 1) [] row acc) []
  if k.unique then k.dropEqual [] lines else lines

/-- The first line that is out of order, with its number; `number` is that of the line before. -/
def Job.disorder (k : Job) (number : Nat) : List Line → Option (Nat × Line)
  | a :: b :: rest =>
    let o := k.compare a b
    if o = .gt || (k.unique && o = .eq) then some (number + 1, b)
    else k.disorder (number + 1) (b :: rest)
  | _ => none

end PipelineShell.Userland.Sorting
