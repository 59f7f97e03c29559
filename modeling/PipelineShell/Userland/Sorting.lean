import PipelineShell.Userland.Sorting.Account

/-!
# `sort`

Sorts by keys, merges sorted files, or checks that a file is sorted.
-/

namespace PipelineShell.Userland.Sorting

def failAt {α : Type} (c : Call) (what : String) (name : Chars) (e : SystemError) : Work α :=
  Work.fail c 2 (what.toList ++ ": ".toList ++ Quoting.name name ++ ": ".toList ++ e.wording)

def Fault.tell {α : Type} (fault : Fault) (c : Call) : Work α := do
  for message in fault.messages do
    Work.say c (c.complaint message).2
  if fault.advised then Work.say c c.advice.2
  Work.exit c fault.status

def check (c : Call) (operand : Chars) : Work Unit := do
  if operand = ['-'] then return
  match ← Work.task (Task.ask fun m => m.entry? c.descriptors c.cwd (Octets.toText operand)) with
  | .ok _ => return
  | .error e => failAt c "cannot read" operand e

/-- The lines of the file that an operand names; `missing` heads what is said if the standard input
is not open. -/
def readLines (c : Call) (k : Job) (missing : String) (operand : Chars) : Work (List Line) := do
  match ← Work.openOperand c operand with
  | .error e => failAt c (if operand = ['-'] then missing else "open failed") operand e
  | .ok number =>
    match ← Work.readAll number with
    | .error e => failAt c "read failed" operand e
    | .ok data => return (linesOf k.ending data).1.map k.line

def readRows (c : Call) (k : Job) : List Chars → Work (List (List Line))
  | [] => return []
  | operand :: rest => do
    let lines ← readLines c k (if k.merge then "read failed" else "stat failed") operand
    return lines :: (← readRows c k rest)

def checkOnly (c : Call) (k : Job) (letter : Char) (operands : List Chars) : Work Unit := do
  match operands with
  | _ :: extra :: _ =>
    Work.fail c 2 ("extra operand ".toList ++ Quoting.quotedName extra ++
      " not allowed with -".toList ++ [letter])
  | _ =>
    if k.outfile.isSome then (incompatible [letter, 'o']).tell c
    let operand := operands.headD ['-']
    let lines ← readLines c k "read failed" operand
    match k.disorder 1 lines with
    | none => return
    | some (number, line) =>
      if letter = 'c' then
        let place := c.headed (operand ++ ':' :: Chars.ofNat number ++ ": disorder: ".toList)
        Work.say c (c.bytes place ++ line.bytes ++ [k.ending])
      Work.setStatus 1

def namesIn (c : Call) (source : Chars) : Work (List Chars) := do
  match ← Work.openOperand c source with
  | .error e =>
    if source = ['-'] then
      Work.fail c 2 ("cannot read file names from ".toList ++ Quoting.quotedName source)
    else failAt c "open failed" source e
  | .ok number =>
    match ← Work.readAll number with
    | .error _ => Work.fail c 2 ("cannot read file names from ".toList ++ Quoting.quotedName source)
    | .ok data =>
      let names := (linesOf 0 data).1.map Octets.ofBytes
      if names.isEmpty then Work.fail c 2 ("no input from ".toList ++ Quoting.quotedName source)
      match names.zipIdx.find? fun (name, _) => name = ['-'] || name.isEmpty with
      | none => return names
      | some ([], i) =>
        Work.fail c 2 (Quoting.name source ++ ':' :: Chars.ofNat (i + 1) ++
          ": invalid zero-length file name".toList)
      | some (name, _) =>
        Work.fail c 2 ("when reading file names from stdin, no file name of ".toList ++
          Quoting.quotedName name ++ " allowed".toList)

def heldSize : Nat := 4096

def openOutput (c : Call) (name : Chars) : Work (Except SystemError Nat) :=
  Work.task <| Task.act fun m =>
    match m.openToWrite c.descriptors c.cwd (Octets.toText name) .update with
    | .ok (number, m) => (.ok number, m)
    | .error e => (.error e, m)

def put (c : Call) (name : Chars) (number : Option Nat) (data : Bytes) : Work Unit := do
  let refuse (cause : SystemError) : Work Unit := do
    let isLarge : Bool := data.length > heldSize
    let isClosed : Bool := cause = .badDescriptor && isLarge
    Work.say c (c.complaint ((if isLarge then "write failed: " else "fflush failed: ").toList ++
      Quoting.name name ++ ": ".toList ++ cause.wording)).2
    Work.fail c 2 ("write error".toList ++
      if isClosed then ": ".toList ++ cause.wording else [])
  let descriptors := (number.toList.map fun n => (1, n)) ++ c.descriptors.filter (·.1 ≠ 1)
  match ← Work.task ({ c with descriptors }.write 1 data) with
  | none => return
  | some cause => refuse cause

def arrange (c : Call) (k : Job) (operands : List Chars) : Work Unit := do
  for operand in operands do
    check c operand
  let sink : Option Nat ←
    match k.outfile with
    | none => pure (c.descriptors.lookup 1)
    | some name => do
      match ← openOutput c name with
      | .ok number => pure (some number)
      | .error e => failAt c "open failed" name e
  let rows ← readRows c k operands
  let lines := if k.merge then k.merged rows else k.sorted rows.flatten
  if k.outfile.isSome then
    Work.task (Task.change fun m => (sink.map m.empty).getD m)
  let wide := c.isUtf8
  put c (k.outfile.getD "standard output".toList) sink <|
    if k.debug then lines.flatMap (k.accountOf wide ·.bytes)
    else ofLines k.ending (lines.map (·.bytes))

def work (c : Call) : Work Unit := do
  let isOrdered := c.isOrdered
  let (all, misread) := readArguments isOrdered (isOldAllowed c) (c.args.length + 1) c.args
  let args := Arguments.ofList known c.name all misread
  let operands := args.operands
  match Job.addAll {} args.options, args.ending with
  | .error fault, _ => fault.tell c
  | .ok _, some ending => Work.conclude c 2 ending
  | .ok k, none => do
    let operands ←
      match k.source, operands with
      | some _, extra :: _ => do
        Work.say c (c.complaint ("extra operand ".toList ++ Quoting.quotedName extra)).2
        Work.say c (c.remark "file operands cannot be combined with --files0-from".toList).2
        Work.say c c.advice.2
        Work.exit c 2
      | some source, [] => namesIn c source
      | none, operands => pure operands
    match k.complete with
    | .error fault => fault.tell c
    | .ok whole =>
      if k.debug then
        match k.check with
        | some letter => (incompatible (letter :: " --debug".toList)).tell c
        | none => if k.outfile.isSome then (incompatible "o --debug".toList).tell c
        for remark in rules c ++ whole.remarks k.keys.isEmpty do
          Work.say c (c.complaint remark).2
      match k.chance with
      | some source =>
        if whole.keys.any (·.manner.random) then
          match ← Work.openOperand c source with
          | .error e => failAt c "open failed" source e
          | .ok _ => pure ()
      | none => pure ()
      match k.check with
      | some letter => checkOnly c whole letter operands
      | none => arrange c whole (if operands.isEmpty then [['-']] else operands)

end Sorting

def sort : Utility := Manner.utility {} Sorting.work

end PipelineShell.Userland
