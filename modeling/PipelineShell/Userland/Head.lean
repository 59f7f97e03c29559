import PipelineShell.Userland.Options
import PipelineShell.Userland.Quantity
import PipelineShell.Userland.Quoting

/-!
# Beginnings of files

`head` writes the first lines or bytes of its operands, or all but the last ones. It reads in
blocks, and goes back to where it has stopped writing if its input allows that.
-/

namespace PipelineShell.Userland.Head

/-- How much is written. -/
structure Portion where
  lines : Bool := true
  count : Nat := 10
  allBut : Bool := false
  ending : UInt8 := 10
  headers : Option Bool := none

def countFault (lines : Bool) (t : Chars) (tooLarge : Bool) : Chars :=
  (if lines then "invalid number of lines: " else "invalid number of bytes: ").toList ++
    Quoting.phrase t ++
    (if tooLarge then ": Value too large for defined data type".toList else [])

def Portion.setCount (p : Portion) (lines : Bool) (t : Chars) (allBut : Bool) :
    Except Chars Portion :=
  match Quantity.read t with
  | .quantity n => .ok { p with lines, count := n, allBut }
  | .tooLarge => .error (countFault lines t true)
  | .malformed => .error (countFault lines t false)

def known : Known where
  letters := [('c', .required), ('n', .required), ('q', .none), ('v', .none), ('z', .none)] ++
    "0123456789".toList.map (·, .none)
  words :=
    [("bytes".toList, .required, 'c'), ("lines".toList, .required, 'n'),
      ("quiet".toList, .none, 'q'), ("silent".toList, .none, 'q'), ("verbose".toList, .none, 'v'),
      ("zero-terminated".toList, .none, 'z')]
  name := "head"
  uses := ["[OPTION]... [FILE]..."]

abbrev Fault := Chars × Bool

def trailing (letter : Char) : Fault :=
  ("invalid trailing option -- ".toList ++ [letter], true)

def Portion.add (p : Portion) : Char × Option Chars → Except Fault Portion
  | ('q', _) => .ok { p with headers := some false }
  | ('v', _) => .ok { p with headers := some true }
  | ('z', _) => .ok { p with ending := 0 }
  | (letter, some value) =>
    let allBut := value.head? = some '-'
    match p.setCount (letter = 'n') (if allBut then value.drop 1 else value) allBut with
    | .ok p => .ok p
    | .error message => .error (message, false)
  | (letter, none) => .error (trailing letter)

def Portion.addAll (p : Portion) : List (Char × Option Chars) → Except Fault Portion
  | [] => .ok p
  | o :: rest =>
    match p.add o with
    | .ok p => p.addAll rest
    | .error fault => .error fault

def Portion.addLetters (p : Portion) (unit : Chars) : Chars → Except Fault (Portion × Chars)
  | [] => .ok (p, unit)
  | c :: rest =>
    if c = 'c' then { p with lines := false }.addLetters [] rest
    else if c = 'b' || c = 'k' || c = 'm' then { p with lines := false }.addLetters [c] rest
    else if c = 'l' then { p with lines := true }.addLetters unit rest
    else if c = 'q' then { p with headers := some false }.addLetters unit rest
    else if c = 'v' then { p with headers := some true }.addLetters unit rest
    else if c = 'z' then { p with ending := 0 }.addLetters unit rest
    else .error (trailing c)

def leadingCount (c : Call) : Except Fault (Portion × Call) :=
  match c.args with
  | ('-' :: d :: t) :: rest =>
    if !d.isDigit then .ok ({}, c)
    else
      let digits := (d :: t).takeWhile Char.isDigit
      match Portion.addLetters {} [] ((d :: t).drop digits.length) with
      | .error fault => .error fault
      | .ok (p, unit) =>
        match p.setCount p.lines (digits ++ unit) false with
        | .ok p => .ok (p, { c with argv := c.name :: rest })
        | .error message => .error (message, false)
  | _ => .ok ({}, c)

def header (first : Bool) (name : Chars) : Bytes :=
  Octets.toBytes ((if first then [] else ['\n']) ++ "==> ".toList ++ name ++ " <==\n".toList)

/-! ### Writing -/

def lineBlock : Nat := 8192

def put (c : Call) (data : Bytes) : Work Unit := do
  Work.failOn c 1 ("error writing ".toList ++ Quoting.quotedName "standard output".toList)
    (← Work.tryPrint c data)

def cut (ending : UInt8) : (size : Nat) → (lines : Nat) → Bytes → Nat × Nat
  | size, 0, _ => (size, 0)
  | size, lines, [] => (size, lines)
  | size, lines + 1, b :: rest =>
    if b = ending then cut ending (size + 1) lines rest else cut ending (size + 1) (lines + 1) rest

/-- What is known in the middle of an open file. -/
structure Progress where
  left : Nat
  fault : Option SystemError := none

def firstLines (c : Call) (ending : UInt8) (number : Nat) : Progress → Work Progress :=
  Work.loop fun s => do
    if s.left = 0 then return (false, s)
    match ← Work.read number lineBlock with
    | .error e => return (false, { s with fault := some e })
    | .ok [] => return (false, s)
    | .ok data => do
      let (size, left) := cut ending 0 s.left data
      put c (data.take size)
      if left = 0 then Work.task (Task.change (·.moveBack number (data.length - size)))
      return (left > 0, { s with left })

def firstBytes (c : Call) (number : Nat) : Progress → Work Progress :=
  Work.loop fun s => do
    if s.left = 0 then return (false, s)
    match ← Work.read number (min s.left blockSize) with
    | .error e => return (false, { s with fault := some e })
    | .ok [] => return (false, s)
    | .ok data => do
      put c data
      return (true, { s with left := s.left - data.length })

/-- How many of some bytes can be written when all but the last lines or bytes are wanted; `atEnd`
tells whether nothing follows. -/
def Portion.certain (p : Portion) (atEnd : Bool) (bytes : Bytes) : Nat :=
  if !p.lines then bytes.length - p.count
  else
    let ends := bytes.countP (· = p.ending)
    let isOpen := bytes.getLast?.any (· ≠ p.ending)
    let lines := if atEnd && isOpen then ends + 1 else ends
    if p.count = 0 then bytes.length else (cut p.ending 0 (lines - p.count) bytes).1

def smallSize : Nat := 4096

def extent (m : Machine) (number : Nat) : Option Nat :=
  (m.handle? number).bind fun handle =>
    let size := (m.contentAt handle.place).size
    if smallSize < size then some (size - handle.position) else none

/-- What is known while all of an open file but the last lines or bytes is written. -/
structure Holding where
  held : Bytes := []
  written : Nat := 0
  room : Option Nat
  fault : Option SystemError := none

def Holding.release (c : Call) (size : Nat) (h : Holding) : Work Holding := do
  let data := h.held.take size
  put c data
  return { h with held := h.held.drop size, written := h.written + data.length }

def allButLast (c : Call) (p : Portion) (number : Nat) : Work (Option SystemError) := do
  let start ← Work.task (Task.ask (·.handle? number))
  let room ← Work.task (Task.ask (extent · number))
  let h ← Work.loop (fun (h : Holding) => do
    if h.room = some 0 then return (false, h)
    match ← Work.read number (min blockSize (h.room.getD blockSize)) with
    | .error e => return (false, { h with fault := some e })
    | .ok [] => return (false, h)
    | .ok data => do
      let held := h.held ++ data
      let h := { h with held, room := h.room.map (· - data.length) }
      return (true, ← h.release c (p.certain false held))) { room }
  if h.fault.isNone then
    let h ← h.release c (p.certain true h.held)
    match start with
    | some handle => Work.task (Task.change (·.moveTo number (handle.position + h.written)))
    | none => pure ()
  return h.fault

def run (c : Call) (p : Portion) (headers : Bool) : List Chars → (first : Bool) → Work Unit
  | [], _ => return
  | operand :: rest, first => do
    let isStandard : Bool := operand = ['-']
    let name := if isStandard then "standard input".toList else operand
    let isClosed : Bool := isStandard && (c.descriptors.lookup 0).isNone
    match ← Work.openOperand c operand with
    | .error e =>
      if !isClosed then
        Work.complain c 1 ("cannot open ".toList ++ Quoting.quotedName operand ++
          " for reading: ".toList ++ e.wording)
        run c p headers rest first
      else
        if headers then put c (header first name)
        if p.count > 0 || p.allBut then
          let what := if p.allBut then "cannot fstat " else "error reading "
          Work.complain c 1 (what.toList ++ Quoting.quotedName name ++ ": ".toList ++ e.wording)
        run c p headers rest false
    | .ok number => do
      if headers then put c (header first name)
      let s : Progress := { left := p.count }
      let fault ←
        if p.allBut then allButLast c p number
        else if p.lines then Progress.fault <$> firstLines c p.ending number s
        else Progress.fault <$> firstBytes c number s
      match fault with
      | some e =>
        Work.complain c 1 ("error reading ".toList ++ Quoting.quotedName name ++ ": ".toList ++
          e.wording)
      | none => pure ()
      run c p headers rest false

def work (c : Call) : Work Unit := do
  let failing (fault : Fault) : Work Unit :=
    if fault.2 then Work.misuse c 1 fault.1 else Work.fail c 1 fault.1
  match leadingCount c with
  | .error fault => failing fault
  | .ok (p, c) =>
    let args := c.arguments known
    match p.addAll args.options, args.ending with
    | .error fault, _ => failing fault
    | .ok _, some ending => Work.conclude c 1 ending
    | .ok p, none =>
      let operands := if args.operands.isEmpty then [['-']] else args.operands
      run c p (p.headers.getD (operands.length > 1)) operands true
      Work.closeInput c operands 1 ['-']

end Head

def head : Utility := Manner.utility {} Head.work

end PipelineShell.Userland
