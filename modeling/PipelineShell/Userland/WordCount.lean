import PipelineShell.Text.Wide
import PipelineShell.Userland.Options

/-!
# `wc`

Counts lines, words, characters and bytes, in columns as wide as the largest count.
-/

namespace PipelineShell.Userland.WordCount

/-- What has been counted. -/
structure Counts where
  lines : Nat := 0
  words : Nat := 0
  chars : Nat := 0
  bytes : Nat := 0
  longest : Nat := 0

def Counts.add (a b : Counts) : Counts :=
  { lines := a.lines + b.lines, words := a.words + b.words, chars := a.chars + b.chars
    bytes := a.bytes + b.bytes, longest := max a.longest b.longest }

/-- What is known in the middle of a content. -/
structure Progress where
  counts : Counts := {}
  column : Nat := 0
  inWord : Bool := false
  begun : Bytes := []

namespace Progress

def part (p : Progress) (column : Nat) : Progress := { p with column, inWord := false }

def newLine (p : Progress) (lines : Nat) : Progress :=
  { p with
    counts := { p.counts with
      lines := p.counts.lines + lines, longest := max p.counts.longest p.column }
    column := 0, inWord := false }

def inside (p : Progress) (columns : Nat) : Progress :=
  { p with
    counts := { p.counts with words := if p.inWord then p.counts.words else p.counts.words + 1 }
    column := p.column + columns, inWord := true }

/-- Counts lines and words on behind a byte that stands for itself. A word has a printable character
in it. -/
def basic (p : Progress) (b : UInt8) : Progress :=
  if 32 < b && b < 127 then p.inside 1
  else if b = 10 then p.newLine 1
  else if b = 12 || b = 13 then p.newLine 0
  else if b = 9 then p.part (p.column + 8 - p.column % 8)
  else if b = 32 then p.part (p.column + 1)
  else if b = 11 then p.part p.column
  else p

def wide (p : Progress) (c : Char) : Progress :=
  if !Text.Wide.isShown c then p
  else if Text.Wide.isSpace c || Text.Wide.isBinding c then
    p.part (p.column + Text.Wide.columns c)
  else p.inside (Text.Wide.columns c)

def bytes : Progress → Bytes → Progress
  | p, [] => p
  | p, b :: rest => bytes (p.basic b) rest

def char (p : Progress) : Progress :=
  { p with counts := { p.counts with chars := p.counts.chars + 1 } }

/-- Counts on through characters; `skip` counts the bytes that belong to the last one. A byte that
does not belong to any is no character. -/
def characters : (skip : Nat) → Progress → Bytes → Progress
  | _, p, [] => p
  | skip + 1, p, _ :: rest => characters skip p rest
  | 0, p, b :: rest =>
    if b < 128 then characters 0 (p.char.basic b) rest
    else
      match Utf8.next b (rest.take 3) with
      | .ok (c, size) => characters (size - 1) (p.char.wide c) rest
      | .error (_, .ending) => { p with begun := b :: rest }
      | .error _ => characters 0 p rest

def finish (p : Progress) : Counts :=
  { p.counts with longest := max p.counts.longest p.column }

end Progress

/-- What is wanted: counts by their letters, and how characters are encoded. -/
structure Report where
  letters : List Char := []
  isWide : Bool := false
  source : Option Chars := none

def Report.shown (r : Report) : List Char :=
  if r.letters.isEmpty then ['l', 'w', 'c'] else r.letters

def Report.count (r : Report) (p : Progress) (data : Bytes) : Progress :=
  let size := data.length
  let isPlain := !r.shown.contains 'w' && !r.shown.contains 'L'
  let k := p.counts
  if isPlain && !(r.isWide && r.shown.contains 'm') then
    let lines := if r.shown.contains 'l' then data.countP (· = 10) else 0
    { p with
      counts := { k with lines := k.lines + lines, bytes := k.bytes + size, chars := k.chars + size } }
  else
    let p := { p with counts := { k with bytes := k.bytes + size } }
    if r.isWide then { p with begun := [] }.characters 0 (p.begun ++ data)
    else { p with counts := { p.counts with chars := k.chars + size } }.bytes data

def known : Known where
  letters := "clLmw".toList.map (·, .none)
  words :=
    [("bytes".toList, .none, 'c'), ("chars".toList, .none, 'm'), ("lines".toList, .none, 'l'),
      ("words".toList, .none, 'w'), ("files0-from".toList, .required, 'F'),
      ("max-line-length".toList, .none, 'L')]
  name := "wc"
  uses := ["[OPTION]... [FILE]...", "[OPTION]... --files0-from=F"]

def Report.addAll (r : Report) : List (Char × Option Chars) → Report
  | [] => r
  | (_, some name) :: rest => { r with source := some name }.addAll rest
  | (letter, none) :: rest => { r with letters := letter :: r.letters }.addAll rest

def Report.line (r : Report) (width : Nat) (k : Counts) (name : Option Chars) : Chars :=
  let all := [('l', k.lines), ('w', k.words), ('m', k.chars), ('c', k.bytes), ('L', k.longest)]
  let numbers := (all.filter fun n => r.shown.contains n.1).map fun n =>
    let digits := Chars.ofNat n.2
    List.replicate (width - digits.length) ' ' ++ digits
  let label :=
    match name with
    | none => []
    | some name => ' ' :: (if name.contains '\n' then Quoting.name name else name)
  Text.join [' '] numbers ++ label

/-- The size of what is to be counted: none if it cannot be found, or zero with the wish for wide
columns if it is no regular file. -/
def sizeOf (c : Call) (m : Machine) (operand : Chars) : Option (Nat × Bool) :=
  if operand = ['-'] then
    match c.descriptors.lookup 0 with
    | none => none
    | some number =>
      match m.handle? number with
      | some handle => some ((m.contentAt handle.place).size, false)
      | none => some (0, true)
  else
    match m.entry? c.descriptors c.cwd (Octets.toText operand) with
    | .ok (some (.file content _)) => some (content.size, false)
    | .ok _ => some (0, true)
    | .error _ => none

def width (c : Call) (m : Machine) (r : Report) (operands : List Chars) : Nat :=
  if operands.length = 1 && r.letters.eraseDups.length = 1 then 1
  else
    let sizes := operands.filterMap (sizeOf c m)
    let least := if sizes.any (·.2) then 7 else 1
    max least (Chars.ofNat (sizes.foldl (fun n s => n + s.1) 0)).length

def countFile (r : Report) (number : Nat) : Work (Option SystemError × Counts) := do
  let (e, p) ← Work.forBlocks number (fun p data => return r.count p data) ({} : Progress)
  return (e, p.finish)

def tellLine (c : Call) (t : Chars) : Work Unit := do
  Work.print c (c.bytes (t ++ ['\n']))
  let _ ← Work.flush c

def one (c : Call) (r : Report) (width : Nat) (named : Bool) (sum : Counts) (operand : Chars) :
    Work Counts := do
  let name := if named then some operand else none
  let tell (k : Counts) : Work Unit := tellLine c (r.line width k name)
  let failing (e : SystemError) : Work Unit :=
    let label := if named then operand else "standard input".toList
    Work.complain c 1 (Quoting.name label ++ ": ".toList ++ e.wording)
  match ← Work.openOperand c operand with
  | .error e => do
    failing e
    if operand = ['-'] then tell {}
    return sum
  | .ok number => do
    let (e, k) ← countFile r number
    match e with
    | some e => failing e
    | none => pure ()
    tell k
    return sum.add k

/-- Goes through the operands; `count` is the number of the next. -/
def run (c : Call) (r : Report) (width : Nat) (named : Bool) : (count : Nat) → Counts → List Chars →
    Work Counts
  | _, sum, [] => return sum
  | count, sum, operand :: rest => do
    if operand.isEmpty && named then
      let place :=
        match r.source with
        | some source => Quoting.name source ++ ':' :: Chars.ofNat count ++ ": ".toList
        | none => []
      Work.complain c 1 (place ++ "invalid zero-length file name".toList)
      run c r width named (count + 1) sum rest
    else if r.source = some ['-'] && operand = ['-'] then
      Work.complain c 1 ("when reading file names from stdin, no file name of ".toList ++
        Quoting.quotedName operand ++ " allowed".toList)
      run c r width named (count + 1) sum rest
    else
      let sum ← one c r width named sum operand
      run c r width named (count + 1) sum rest

def report (c : Call) (r : Report) (width : Nat) (named : Bool) (operands : List Chars) :
    Work Unit := do
  let sum ← run c r width named 1 {} operands
  if operands.length > 1 then tellLine c (r.line width sum (some "total".toList))
  Work.closeInput c operands 1 ['-']

def reportListed (c : Call) (r : Report) (source : Chars) : Work Unit := do
  match ← Work.openOperand c source with
  | .error e =>
    Work.fail c 1 ("cannot open ".toList ++ Quoting.quotedName source ++ " for reading: ".toList ++
      e.wording)
  | .ok number => do
    let isRegular ← Work.task (Task.ask (·.isSeekable number))
    match ← Work.readAll number with
    | .error e => do
      Work.complain c 1 (Quoting.name source ++ ": read error: ".toList ++ e.wording)
    | .ok data => do
      let operands := (linesOf 0 data).1.map Octets.ofBytes
      let width ← if isRegular then Work.task (Task.ask (width c · r operands)) else pure 1
      report c r width true operands

def work (c : Call) : Work Unit := do
  let args := c.arguments known
  match args.ending with
  | some ending => Work.conclude c 1 ending
  | none =>
    let r := Report.addAll { isWide := c.isUtf8 } args.options
    match r.source, args.operands with
    | some _, extra :: _ => do
      Work.say c (c.complaint ("extra operand ".toList ++ Quoting.quotedName extra)).2
      Work.say c (c.remark "file operands cannot be combined with --files0-from".toList).2
      Work.say c c.advice.2
      Work.exit c 1
    | some source, [] => reportListed c r source
    | none, operands => do
      let named := !operands.isEmpty
      let operands := if named then operands else [['-']]
      let width ← Work.task (Task.ask (width c · r operands))
      report c r width named operands

end WordCount

def wc : Utility := Manner.utility {} WordCount.work

end PipelineShell.Userland
