import PipelineShell.FileSystem.Tree
import PipelineShell.Userland.Options
import PipelineShell.Userland.Quoting

/-!
# Changing permissions

`chmod` changes the permissions of files. A mode is given in octal digits, or as clauses that say
whose permissions change, how, and which ones.
-/

namespace PipelineShell.Userland.Permissions

/-- Which permissions a clause is about. -/
inductive What
  /-- These, and with `ifAny` those to execute if anybody has one. -/
  | bits (mode : Mode) (ifAny : Bool)
  | copy (mask : Mode)
  deriving DecidableEq, Repr

/-- A step of a change: whose permissions it is about, if that is said, how they change, which ones,
and which ones have been named. -/
structure Step where
  who : Mode
  sign : Char
  what : What
  named : Mode
  deriving DecidableEq, Repr

def all : Mode := 0o7777

def who? : Char → Option Mode
  | 'u' => some 0o4700
  | 'g' => some 0o2070
  | 'o' => some 0o1007
  | 'a' => some 0o7777
  | _ => none

def bits? : Char → Option Mode
  | 'r' => some 0o444
  | 'w' => some 0o222
  | 'x' => some 0o111
  | 's' => some 0o6000
  | 't' => some 0o1000
  | 'X' => some 0
  | _ => none

def octal? (t : Chars) : Option Mode :=
  if !t.isEmpty && t.all fun c => '0' ≤ c && c ≤ '7' then
    let n := t.foldl (fun n c => 8 * n + (c.toNat - 48)) 0
    if n ≤ all then some n else none
  else none

def what (t : Chars) : Option (What × Chars) :=
  match t with
  | 'u' :: rest => some (.copy 0o700, rest)
  | 'g' :: rest => some (.copy 0o070, rest)
  | 'o' :: rest => some (.copy 0o007, rest)
  | t =>
    let digits := t.takeWhile fun c => '0' ≤ c && c ≤ '7'
    if digits.isEmpty then
      let letters := t.takeWhile fun c => (bits? c).isSome
      some (.bits (letters.foldl (fun m c => m ||| (bits? c).getD 0) 0) (letters.contains 'X'),
        t.drop letters.length)
    else (octal? digits).map fun m => (.bits m false, t.drop digits.length)

/-- Reads clauses; `whose` holds the beginning of the clause that is open. -/
def steps : (fuel : Nat) → (whose : Option Mode) → Chars → Option (List Step)
  | 0, _, _ => none
  | fuel + 1, whose, t =>
    let names := if whose.isNone then t.takeWhile fun c => (who? c).isSome else []
    let mask := whose.getD (names.foldl (fun m c => m ||| (who? c).getD 0) 0)
    match t.drop names.length with
    | sign :: rest =>
      if sign ≠ '+' && sign ≠ '-' && sign ≠ '=' then none
      else
        match what rest with
        | none => none
        | some (w, behind) =>
          let isOctal : Bool := rest.head?.any Char.isDigit
          let named : Mode :=
            match w with
            | .bits m _ | .copy m => if isOctal then all else if mask = 0 then m else mask &&& m
          let step : Step := ⟨if isOctal then all else mask, sign, w, named⟩
          if isOctal && (mask ≠ 0 || behind.head?.any (· ≠ ',')) then none else
          match behind with
          | [] => some [step]
          | ',' :: rest => (steps fuel none rest).map (step :: ·)
          | rest => (steps fuel (some mask) rest).map (step :: ·)
    | [] => none

def read (t : Chars) : Option (List Step) :=
  match octal? t with
  | some m => some [⟨all, '=', .bits m false, if t.length < 5 then m ||| 0o777 else all⟩]
  | none => if t.head?.any Char.isDigit then none else steps (t.length + 1) none t

/-- The permissions after a step; `mask` are those that are not given to everybody. A directory
keeps its identities unless they are named. -/
def Step.apply (s : Step) (isDirectory : Bool) (mask : Mode) (now : Mode) : Mode :=
  let without (m bits : Mode) : Mode := m &&& (all ^^^ (bits &&& all))
  let kept := if isDirectory then without 0o6000 s.named else 0
  let value : Mode :=
    match s.what with
    | .bits m ifAny =>
      if ifAny && (isDirectory || now &&& 0o111 ≠ 0) then m ||| 0o111 else m
    | .copy source =>
      let given := now &&& source
      (if given &&& 0o444 ≠ 0 then 0o444 else 0) ||| (if given &&& 0o222 ≠ 0 then 0o222 else 0) |||
        (if given &&& 0o111 ≠ 0 then 0o111 else 0)
  let value := without (if s.who = 0 then without value mask else value &&& s.who) kept
  match s.sign with
  | '+' => now ||| value
  | '-' => without now value
  | _ => (now &&& ((if s.who = 0 then 0 else without all s.who) ||| kept)) ||| value

def letters (m : Mode) : Chars :=
  let row (shift : Nat) (special : Bool) (small large : Char) : Chars :=
    let bits := m >>> shift
    [if bits &&& 4 ≠ 0 then 'r' else '-', if bits &&& 2 ≠ 0 then 'w' else '-',
      if special then (if bits &&& 1 ≠ 0 then small else large)
      else if bits &&& 1 ≠ 0 then 'x' else '-']
  row 6 (m &&& 0o4000 ≠ 0) 's' 'S' ++ row 3 (m &&& 0o2000 ≠ 0) 's' 'S' ++
    row 0 (m &&& 0o1000 ≠ 0) 't' 'T'

def described (m : Mode) : Chars :=
  let digits := Nat.toDigits 8 m
  List.replicate (4 - digits.length) '0' ++ digits ++ " (".toList ++ letters m ++ [')']

/-- What is to be done. -/
structure Task where
  recursive : Bool := false
  verbose : Bool := false
  changes : Bool := false
  silent : Bool := false
  mode : Option Chars := none
  reference : Option Chars := none

def known : Known where
  letters := "Rcfv".toList.map (·, .none) ++ "rwxXstugoa,+=01234567".toList.map (·, .optional)
  words :=
    [("changes".toList, .none, 'c'), ("recursive".toList, .none, 'R'),
      ("no-preserve-root".toList, .none, '/'), ("preserve-root".toList, .none, '/'),
      ("quiet".toList, .none, 'f'), ("reference".toList, .required, '@'),
      ("silent".toList, .none, 'f'), ("verbose".toList, .none, 'v')]
  name := "chmod"
  uses := ["[OPTION]... MODE[,MODE]... FILE...", "[OPTION]... OCTAL-MODE FILE...",
    "[OPTION]... --reference=RFILE FILE..."]

def Task.add (k : Task) (o : Char × Option Chars) : Task :=
  match o.1 with
  | '@' => { k with reference := o.2 }
  | '/' => k
  | 'R' => { k with recursive := true }
  | 'c' => { k with changes := true, verbose := false }
  | 'f' => { k with silent := true }
  | 'v' => { k with verbose := true, changes := false }
  | c =>
    let t := '-' :: c :: o.2.getD []
    { k with mode := some (match k.mode with
      | none => t
      | some before => before ++ ',' :: t) }

def after (steps : List Step) (isDirectory : Bool) (mask now : Mode) : Mode :=
  steps.foldl (fun m s => s.apply isDirectory mask m) now

def Task.change (k : Task) (c : Call) (steps : List Step) (name : Chars) (place : Place)
    (deed : Deed) : Deed :=
  let entry := deed.files.get? place
  let now := (entry.bind Entry.mode?).getD Mode.program
  let isDirectory : Bool := entry.any Entry.isDirectory
  let later := after steps isDirectory c.mask now
  let expected := after steps isDirectory 0 now
  let files := match entry with
    | some e => deed.files.set place (e.withMode later)
    | none => deed.files
  let report : List (Output × Bytes) :=
    if k.verbose || (k.changes && later ≠ now) then
      [(.stdout, c.bytes ("mode of ".toList ++ Quoting.quotedName name ++
        (if later = now then " retained as ".toList ++ described now
        else " changed from ".toList ++ described now ++ " to ".toList ++ described later) ++
        ['\n']))]
    else []
  let surprise : List (Output × Bytes) :=
    if k.mode.isSome && later &&& (all ^^^ expected) ≠ 0 then
      [c.complaint (Quoting.name name ++ ": new permissions are ".toList ++ letters later ++
        ", not ".toList ++ letters expected)]
    else []
  { deed with
    written := surprise ++ report ++ deed.written, files
    status := if surprise.isEmpty then deed.status else 1 }

def below (fs : FileSystem) : (fuel : Nat) → Chars → Place → List (Chars × Place)
  | 0, _, _ => []
  | fuel + 1, name, place =>
    (fs.children place).flatMap fun child =>
      let here := place ++ [child]
      let name := name ++ (if name.getLast? = some '/' then [] else ['/']) ++ Octets.ofBytes child
      match fs.get? here with
      | some (.link _) => []
      | some (.directory _) => (name, here) :: below fs fuel name here
      | _ => [(name, here)]

def Task.run (k : Task) (c : Call) (steps : List Step) : List Chars → Deed → Deed
  | [], deed => deed
  | operand :: rest, deed =>
    let path := Octets.toText operand
    let found : Except Chars Place :=
      match deed.files.locate c.cwd path with
      | .error e => .error e.wording
      | .ok place =>
        if (deed.files.get? place).isSome then .ok place else .error SystemError.notFound.wording
    match found with
    | .error message =>
      let complaint := c.complaint ("cannot access ".toList ++ Quoting.quotedName operand ++
        ": ".toList ++ message)
      let report : List (Output × Bytes) :=
        if k.verbose then
          [(.stdout, c.bytes (Quoting.quotedName operand ++ " could not be accessed\n".toList))]
        else []
      k.run c steps rest { deed with
        written := report ++ (if k.silent then [] else [complaint]) ++ deed.written, status := 1 }
    | .ok place =>
      let targets := (operand, place) ::
        (if k.recursive then below deed.files (deed.files.entries.length + 1) operand place else [])
      k.run c steps rest
        (targets.foldl (fun deed t => k.change c steps t.1 t.2 deed) deed)

def modeOf (fs : FileSystem) (cwd path : Text) : Except SystemError Mode :=
  match fs.entry? cwd path with
  | .ok entry => .ok (entry.mode?.getD Mode.program)
  | .error e => .error e

def Task.carryOut (k : Task) (c : Call) (d : Desk) (steps : List Step) (operands : List Chars) :
    Deed :=
  let deed := k.run c steps operands { files := d.files }
  { deed with written := deed.written.reverse }

end Permissions

def chmod : Tool := fun c d =>
  let args := c.arguments Permissions.known
  let task := args.options.foldl (fun (k : Permissions.Task) o => k.add o) {}
  let isGiven : Bool := task.mode.isSome || task.reference.isSome
  let operands := if isGiven then args.operands else args.operands.drop 1
  let mode := task.mode <|> args.operands.head?
  match args.ending with
  | some ending => ending.deed c d
  | none =>
    if task.mode.isSome && task.reference.isSome then
      c.misuse d 1 "cannot combine mode and --reference options".toList
    else if operands.isEmpty then
      if isGiven || mode.isNone then c.misuse d 1 "missing operand".toList
      else c.misuse d 1 ("missing operand after ".toList ++ Quoting.phrase (c.args.getLastD []))
    else
      match task.reference with
      | some name =>
        match Permissions.modeOf d.files c.cwd (Octets.toText name) with
        | .ok m => task.carryOut c d [⟨Permissions.all, '=', .bits m false, Permissions.all⟩] operands
        | .error e =>
          c.failure d 1 ("failed to get attributes of ".toList ++ Quoting.quotedName name ++
            ": ".toList ++ e.wording)
      | none =>
        match Permissions.read (mode.getD []) with
        | none => c.misuse d 1 ("invalid mode: ".toList ++ Quoting.phrase (mode.getD []))
        | some steps => task.carryOut c d steps operands

end PipelineShell.Userland
