import PipelineShell.Userland.Quoting
import PipelineShell.Userland.Schedule

/-!
# Utilities

A utility is called with arguments, directory, environment and open files. It reads and writes in
blocks and keeps its status, what it has buffered and what was refused.
-/

namespace PipelineShell.Userland

/-- How a utility is called. -/
structure Call where
  argv : List Chars
  cwd : Text
  env : List (Chars × Chars)
  descriptors : List (Nat × Nat) := [(0, 0), (1, 1), (2, 2)]
  ignored : List Nat := []
  mask : Mode := 0o022
  limits : List (Char × Option Nat × Option Nat) := []
  process : Nat := 4241
  parent : Nat := 0
  deriving DecidableEq, Repr

namespace Call

def name (c : Call) : Chars := c.argv.headD []

def args (c : Call) : List Chars := c.argv.drop 1

def isOrdered (c : Call) : Bool := (c.env.lookup "POSIXLY_CORRECT".toList).isSome

/-- The locale for some matter, which has a variable of its own: the value of the first of some
variables that is set and not empty. -/
def localeFor (c : Call) (matter : String) : Chars :=
  (["LC_ALL", matter, "LANG"].findSome? fun v =>
    (c.env.lookup v.toList).filter (!·.isEmpty)).getD ['C']

def matters : List String :=
  ["LC_CTYPE", "LC_NUMERIC", "LC_TIME", "LC_COLLATE", "LC_MONETARY", "LC_MESSAGES", "LC_PAPER",
    "LC_NAME", "LC_ADDRESS", "LC_TELEPHONE", "LC_MEASUREMENT", "LC_IDENTIFICATION"]

def isWide (locale : Chars) : Bool :=
  match locale with
  | 'C' :: '.' :: codeset => (codeset.filter Char.isAlphanum).map Char.toLower = "utf8".toList
  | _ => false

def isLocaleKnown (c : Call) : Bool :=
  matters.all fun matter =>
    let locale := c.localeFor matter
    locale = ['C'] || locale = "POSIX".toList || isWide locale

def isUtf8 (c : Call) : Bool := isWide (c.localeFor "LC_CTYPE") && c.isLocaleKnown

def headed (c : Call) (message : Chars) : Chars := c.name ++ ": ".toList ++ message

def fileLimit (c : Call) : Option Nat := (c.limits.lookup 'f').bind (·.1)

def standing (c : Call) : Process :=
  { number := c.process, parent := c.parent, holds := c.descriptors.map (·.2), ignored := c.ignored }

end Call

abbrev Utility := Call → Turn

def Call.bytes (c : Call) (t : Chars) : Bytes := Octets.toBytes (Quoting.resolve c.isUtf8 t)

def Call.line (c : Call) (t : Chars) : Output × Bytes := (.stdout, c.bytes (t ++ ['\n']))

def Call.remark (c : Call) (t : Chars) : Output × Bytes := (.stderr, c.bytes (t ++ ['\n']))

def Call.complaint (c : Call) (message : Chars) : Output × Bytes := c.remark (c.headed message)

def Call.advice (c : Call) : Output × Bytes :=
  c.remark ("Try '".toList ++ c.name ++ " --help' for more information.".toList)

def signalOf (cause : SystemError) : Option Nat :=
  match cause with
  | .brokenPipe => some Signal.pipe
  | .fileTooLarge => some Signal.fileSize
  | _ => none

/-- Writes to a descriptor; why that was refused comes out, if it was. A process that is not to be
told why is ended instead. -/
def Call.write (c : Call) (descriptor : Nat) (data : Bytes) : Task (Option SystemError) :=
  if data.isEmpty then return none
  else
    match c.descriptors.lookup descriptor with
    | none => return some .badDescriptor
    | some number => do
      match ← Task.write c.fileLimit number data with
      | none => return none
      | some cause =>
        match signalOf cause with
        | some signal => if c.ignored.contains signal then return some cause else Task.exit (-signal)
        | none => return some cause

/-! ### The work of a utility -/

/-- What a utility keeps account of. -/
structure Ledger where
  status : Int := 0
  held : List Bytes := []
  size : Nat := 0
  refused : Option SystemError := none
  deriving DecidableEq, Repr

abbrev Work := StateT Ledger Task

namespace Work

def task {α : Type} (t : Task α) : Work α := StateT.lift t

def bufferSize : Nat := 4096

def send (c : Call) (data : Bytes) : Work (Option SystemError) := do
  if data.isEmpty then return none
  let cause ← task (c.write 1 data)
  if cause.isNone then task Task.pause
  return cause

def settle (c : Call) (data : Bytes) : Work (Option SystemError) := do
  let cause ← send c data
  if cause.isSome then
    modify fun l => { l with held := [], size := 0, refused := l.refused <|> cause }
  return cause

def flush (c : Call) : Work (Option SystemError) := do
  let held := (← get).held.reverse.flatten
  modify fun l => { l with held := [], size := 0 }
  settle c held

def tryPrint (c : Call) (data : Bytes) : Work (Option SystemError) := do
  let l ← get
  let size := l.size + data.length
  if size ≤ bufferSize then
    set { l with held := data :: l.held, size }
    return none
  else
    let whole := (data :: l.held).reverse.flatten
    let now := size - size % bufferSize
    set { l with held := [whole.drop now], size := size % bufferSize }
    settle c (whole.take now)

def print (c : Call) (data : Bytes) : Work Unit := do
  let _ ← tryPrint c data

def say (c : Call) (data : Bytes) : Work Unit := do
  let _ ← flush c
  let _ ← task (c.write 2 data)

def exit {α : Type} (c : Call) (status : Int) : Work α := do
  let _ ← flush c
  task (Task.exit status)

def deliver (c : Call) : List (Output × Bytes) → Work Unit
  | [] => return
  | (.stdout, data) :: rest => do
    print c data
    deliver c rest
  | (.stderr, data) :: rest => do
    say c data
    deliver c rest

def setStatus (status : Int) : Work Unit := modify fun l => { l with status }

def complain (c : Call) (status : Int) (message : Chars) : Work Unit := do
  say c (c.complaint message).2
  setStatus status

def fail {α : Type} (c : Call) (status : Int) (message : Chars) : Work α := do
  say c (c.complaint message).2
  task (Task.exit status)

def misuse {α : Type} (c : Call) (status : Int) (message : Chars) : Work α := do
  deliver c [c.complaint message, c.advice]
  task (Task.exit status)

def iterate {σ : Type} (step : σ → Work (Bool × σ)) : Nat → σ → Work σ
  | 0, x => return x
  | n + 1, x => do
    match ← step x with
    | (true, x) => iterate step n x
    | (false, x) => return x

def loop {σ : Type} (step : σ → Work (Bool × σ)) (x : σ) : Work σ := iterate step Task.limit x

def failOn (c : Call) (status : Int) (lament : Chars) (cause : Option SystemError) : Work Unit :=
  match cause with
  | none => return
  | some cause => fail c status (lament ++ ": ".toList ++ cause.wording)

def closeInput (c : Call) (operands : List Chars) (status : Int) (message : Chars) : Work Unit :=
  if operands.contains ['-'] && (c.descriptors.lookup 0).isNone then
    fail c status (message ++ ": ".toList ++ SystemError.badDescriptor.wording)
  else return

def openOperand (c : Call) (operand : Chars) : Work (Except SystemError Nat) := do
  if operand = ['-'] then
    return match c.descriptors.lookup 0 with
      | some number => .ok number
      | none => .error .badDescriptor
  else
    task <| Task.act fun m =>
      match m.openToRead c.descriptors c.cwd (Octets.toText operand) with
      | .ok (number, m) => (.ok number, m)
      | .error e => (.error e, m)

def read (number size : Nat) : Work (Except SystemError Bytes) := task (Task.read number size)

def readAll (number : Nat) : Work (Except SystemError Bytes) := task (Task.readAll number)

def forBlocks {σ : Type} (number : Nat) (step : σ → Bytes → Work σ) (x : σ) :
    Work (Option SystemError × σ) :=
  loop (fun x => do
    match ← read number blockSize with
    | .error e => return (false, some e, x.2)
    | .ok [] => return (false, x)
    | .ok data => return (true, none, ← step x.2 data)) (none, x)

end Work

/-- What a utility says of output that was refused, and the status that it then ends with. -/
structure Manner where
  status : Int := 1
  /-- The messages about a cause; `late` tells that nothing was left to be written at the end. -/
  lament : SystemError → (late : Bool) → List Chars := fun cause late =>
    ["write error".toList ++
      if late && cause ≠ .badDescriptor then [] else ": ".toList ++ cause.wording]

def Manner.utility (manner : Manner) (work : Call → Work Unit) : Utility := fun c =>
  Task.turn do
    let (last, l) ← (do work c; Work.flush c).run {}
    match l.refused with
    | none => return l.status
    | some cause =>
      for message in manner.lament cause last.isNone do
        let _ ← c.write 2 (c.complaint message).2
      return manner.status

/-! ### Utilities that read nothing -/

/-- What a tool has at hand besides its call. -/
structure Desk where
  files : FileSystem

/-- What a tool has done. -/
structure Deed where
  written : List (Output × Bytes) := []
  status : Int := 0
  files : FileSystem

abbrev Tool := Call → Desk → Deed

def Call.misuse (c : Call) (d : Desk) (status : Int) (message : Chars) : Deed :=
  { written := [c.complaint message, c.advice], status, files := d.files }

def Call.failure (c : Call) (d : Desk) (status : Int) (message : Chars) : Deed :=
  { written := [c.complaint message], status, files := d.files }

def joined : List (Output × Bytes) → List (Output × Bytes)
  | [] => []
  | (output, data) :: rest =>
    match joined rest with
    | (output', data') :: more =>
      if output = output' then (output, data ++ data') :: more
      else (output, data) :: (output', data') :: more
    | [] => [(output, data)]

def Tool.work (tool : Tool) (c : Call) : Work Unit := do
  let deed ← Work.task <| Task.act fun m =>
    let deed := tool c { files := m.files }
    (deed, { m with files := deed.files })
  Work.deliver c (joined deed.written)
  Work.setStatus deed.status

def Tool.utility (tool : Tool) : Utility := Manner.utility {} tool.work

/-! ### Operands -/

def entryOf (fs : FileSystem) (cwd : Text) (operand : Chars) : Except SystemError Entry :=
  fs.entry? cwd (Octets.toText operand)

def linesOf (ending : UInt8) (bytes : Bytes) : List Bytes × Bool := go [] [] bytes
where
  go (done : List Bytes) (line : Bytes) : Bytes → List Bytes × Bool
    | [] =>
      if line.isEmpty then (done.reverse, true) else ((line.reverse :: done).reverse, false)
    | b :: rest =>
      if b = ending then go (line.reverse :: done) [] rest else go done (b :: line) rest

def ofLines (ending : UInt8) (lines : List Bytes) : Bytes := lines.flatMap (· ++ [ending])

def decimal (digits : Chars) : Nat := digits.foldl (fun n c => 10 * n + (c.toNat - 48)) 0

def natural? (t : Chars) : Option Nat :=
  if t.isEmpty || !t.all Char.isDigit then none else some (decimal t)

end PipelineShell.Userland
