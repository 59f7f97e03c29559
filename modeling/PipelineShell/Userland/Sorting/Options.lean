import PipelineShell.Userland.Options
import PipelineShell.Userland.Quantity
import PipelineShell.Userland.Sorting.Key

/-!
# Options of `sort`

Keys by fields and characters, in the new and the old notation.
-/

namespace PipelineShell.Userland.Sorting

/-- What is wrong with a call: messages, whether advice follows, and the status. -/
structure Fault where
  messages : List Chars
  advised : Bool := false
  status : Int := 2

def keyFault (spec : Chars) (what : String) : Fault :=
  ⟨[what.toList ++ ": invalid field specification ".toList ++ Quoting.phrase spec], false, 2⟩

def keyNumber (t : Chars) (what : String) : Except Fault (Nat × Chars) :=
  let t' := t.dropWhile fun c => c = ' ' || ('\t' ≤ c && c ≤ '\r')
  let t' := if t'.head? = some '+' then t'.drop 1 else t'
  let digits := t'.takeWhile Char.isDigit
  if digits.isEmpty then
    .error ⟨[what.toList ++ ": invalid count at start of ".toList ++ Quoting.phrase t], false, 2⟩
  else .ok (min (decimal digits) Quantity.greatest, t'.drop digits.length)

def readKey (spec : Chars) : Except Fault Key := do
  let (field, t) ← keyNumber spec "invalid number at field start"
  if field = 0 then throw (keyFault spec "field number is zero")
  let (char, t) ←
    match t with
    | '.' :: rest => keyNumber rest "invalid number after '.'"
    | t => pure (1, t)
  if char = 0 then throw (keyFault spec "character offset is zero")
  let start := if field = 1 && char = 1 then none else some (field - 1, char - 1)
  let (manner, t) := Manner.addLetters {} true false t
  match t with
  | ',' :: rest =>
    let (field, t) ← keyNumber rest "invalid number after ','"
    if field = 0 then throw (keyFault spec "field number is zero")
    let (char, t) ←
      match t with
      | '.' :: rest => keyNumber rest "invalid number after '.'"
      | t => pure (0, t)
    let (manner, t) := manner.addLetters false true t
    if !t.isEmpty then throw (keyFault spec "stray character in field spec")
    return { start, stop := some (field - 1, char), manner }
  | [] => return { start, manner }
  | _ => throw (keyFault spec "stray character in field spec")

def known : Known where
  letters := "bdfghiMnRrVcCmsuz".toList.map (·, .none) ++ "kotSTy".toList.map (·, .required)
  words :=
    [("ignore-leading-blanks", .none, 'b'), ("check", .optional, 'c'),
      ("compress-program", .required, 'Z'), ("debug", .none, 'D'), ("dictionary-order", .none, 'd'),
      ("ignore-case", .none, 'f'), ("files0-from", .required, 'F'),
      ("general-numeric-sort", .none, 'g'), ("ignore-nonprinting", .none, 'i'),
      ("key", .required, 'k'), ("merge", .none, 'm'), ("month-sort", .none, 'M'),
      ("numeric-sort", .none, 'n'), ("human-numeric-sort", .none, 'h'), ("version-sort", .none, 'V'),
      ("random-sort", .none, 'R'), ("random-source", .required, 'Q'), ("sort", .required, 'W'),
      ("output", .required, 'o'), ("reverse", .none, 'r'), ("stable", .none, 's'),
      ("batch-size", .required, 'N'), ("buffer-size", .required, 'B'),
      ("field-separator", .required, 't'), ("temporary-directory", .required, 'T'),
      ("unique", .none, 'u'), ("zero-terminated", .none, 'z'),
      ("parallel", .required, 'P')].map fun (w, arity, c) => (w.toList, arity, c)
  name := "sort"
  uses := ["[OPTION]... [FILE]...", "[OPTION]... --files0-from=F"]

def ways : List (Chars × Char) :=
  [("general-numeric", 'g'), ("human-numeric", 'h'), ("month", 'M'), ("numeric", 'n'),
    ("random", 'R'), ("version", 'V')].map fun (w, c) => (w.toList, c)

def checks : List (Chars × Char) :=
  [("quiet".toList, 'C'), ("silent".toList, 'C'), ("diagnose-first".toList, 'c')]

def listed : Option Char → List (Chars × Char) → Chars
  | _, [] => []
  | last, (word, c) :: rest =>
    (if last = some c then ", " else "\n  - ").toList ++ Quoting.phrase word ++ listed (some c) rest

def choose (option t : Chars) (words : List (Chars × Char)) : Except Fault Char :=
  let found := match words.lookup t with
    | some c => [(t, c)]
    | none => words.filter (t.isPrefixOf ·.1)
  let fault (kind : String) : Fault :=
    { messages := [kind.toList ++ " argument ".toList ++ Quoting.phrase t ++ " for ".toList ++
        Quoting.phrase ("--".toList ++ option) ++ "\nValid arguments are:".toList ++
        listed none words]
      advised := true, status := 1 }
  match found with
  | (_, c) :: rest => if rest.all (·.2 = c) then .ok c else .error (fault "ambiguous")
  | [] => .error (fault "invalid")

def incompatible (letters : Chars) : Fault :=
  ⟨["options '-".toList ++ letters ++ "' are incompatible".toList], false, 2⟩

/-! ### Counts -/

/-- Why a text is no count. -/
inductive CountFault
  | malformed
  | suffix
  | tooLarge
  deriving DecidableEq

def CountFault.fault (f : CountFault) (option : String) (t : Chars) : Fault :=
  let shown := option.toList ++ " argument '".toList ++ t ++ ['\'']
  ⟨[match f with
    | .malformed => "invalid ".toList ++ shown
    | .suffix => "invalid suffix in ".toList ++ shown
    | .tooLarge => shown ++ " too large".toList], false, 2⟩

/-- Reads a count with one of some units, for powers of 1024; what is behind the digits comes out as
well. -/
def count (units : List (Char × Nat)) (t : Chars) : Except CountFault (Nat × Chars) :=
  let body := t.dropWhile fun c => c = ' ' || ('\t' ≤ c && c ≤ '\r')
  let body := if body.head? = some '+' then body.drop 1 else body
  let digits := body.takeWhile Char.isDigit
  let rest := body.drop digits.length
  let power := rest.head?.bind fun c => units.lookup c
  if digits.isEmpty && power.isNone then .error .malformed
  else
    let n := (if digits.isEmpty then 1 else decimal digits) * Nat.pow 1024 (power.getD 0)
    if power.isNone && !rest.isEmpty || rest.length > 1 then
      if !digits.isEmpty && (rest = ['b'] || rest = ['%']) && !units.isEmpty then .ok (n, rest)
      else .error .suffix
    else if n > Quantity.greatest then .error .tooLarge
    else .ok (n, rest)

def sizeUnits : List (Char × Nat) :=
  [('k', 1), ('K', 1), ('m', 2), ('M', 2), ('g', 3), ('G', 3), ('t', 4), ('T', 4), ('P', 5),
    ('E', 6), ('Z', 7), ('Y', 8)]

def bufferSize (option : String) (t : Chars) : Except Fault Unit :=
  match count sizeUnits t with
  | .error e => .error (e.fault option t)
  | .ok (n, rest) =>
    if rest.isEmpty && n > Quantity.greatest / 1024 then .error (CountFault.tooLarge.fault option t)
    else .ok ()

def greatestBatch : Nat := 1048573

def batchSize (t : Chars) : Except Fault Unit :=
  let tooLarge : Fault :=
    { messages :=
        ["--batch-size argument ".toList ++ Quoting.phrase t ++ " too large".toList,
          "maximum --batch-size argument with current rlimit is ".toList ++
            Quoting.phrase (Chars.ofNat greatestBatch)] }
  match count [] t with
  | .error .tooLarge => .error tooLarge
  | .error e => .error (e.fault "--batch-size" t)
  | .ok (n, _) =>
    if n < 2 then
      .error
        { messages :=
            ["invalid --batch-size argument ".toList ++ Quoting.phrase t,
              "minimum --batch-size argument is ".toList ++ Quoting.phrase ['2']] }
    else if n > greatestBatch then .error tooLarge
    else .ok ()

/-! ### Keys in the old way -/

def oldPlace? (t : Chars) : Option (Nat × Nat × Chars) :=
  let digits := t.takeWhile Char.isDigit
  if digits.isEmpty then none
  else
    match t.drop digits.length with
    | '.' :: rest =>
      let chars := rest.takeWhile Char.isDigit
      if chars.isEmpty then none
      else some (decimal digits, decimal chars, rest.drop chars.length)
    | rest => some (decimal digits, 0, rest)

def oldStart? (t : Chars) : Option Key :=
  match oldPlace? t with
  | none => none
  | some (field, char, rest) =>
    let (manner, rest) := Manner.addLetters {} true false rest
    if !rest.isEmpty then none
    else
      some
        { start := if field = 0 && char = 0 then none else some (field, char)
          manner, isOld := true }

def oldStop (key : Key) (t : Chars) : Except Fault Key := do
  let (field, t') ← keyNumber t "invalid number after '-'"
  let (char, t') ←
    match t' with
    | '.' :: rest => keyNumber rest "invalid number after '.'"
    | t' => pure (0, t')
  let (manner, t') := key.manner.addLetters false true t'
  if !t'.isEmpty then throw (keyFault ('-' :: t) "stray character in field spec")
  return { key with stop := some (if char = 0 then field - 1 else field, char), manner }

/-- Reads arguments. A place behind a plus sign, perhaps with one behind a minus sign after it, is a
key in the old way; `isOld` tells whether the first of them alone is one. -/
def readArguments (ordered isOld : Bool) : (fuel : Nat) → List Chars →
    List Argument × Option Known.Fault
  | 0, _ | _, [] => ([], none)
  | fuel + 1, arg :: rest =>
    match arg with
    | ['-', '-'] => (rest.map .operand, none)
    | '-' :: '-' :: t =>
      match known.withCommon.readWord t rest with
      | .error fault => ([], some fault)
      | .ok (option, rest) =>
        let (more, fault) := readArguments ordered isOld fuel rest
        (option :: more, fault)
    | '-' :: c :: t =>
      match known.readLetters rest (c :: t) with
      | (options, .error fault) => (options, some fault)
      | (options, .ok rest) =>
        let (more, fault) := readArguments ordered isOld fuel rest
        (options ++ more, fault)
    | _ =>
      let stop : Option Chars :=
        match rest with
        | ('-' :: d :: t) :: _ => if d.isDigit then some (d :: t) else none
        | _ => none
      let isOld := isOld || (stop.isSome && !ordered)
      let start : Option Chars :=
        match arg with
        | '+' :: t => if isOld && (oldStart? t).isSome then some t else none
        | _ => none
      match start with
      | some t =>
        let (more, fault) :=
          readArguments ordered isOld fuel (if stop.isSome then rest.drop 1 else rest)
        (.option '+' (some t) :: (stop.toList.map fun t => .option '-' (some t)) ++ more, fault)
      | none =>
        if ordered then (.operand arg :: rest.map .operand, none)
        else
          let (more, fault) := readArguments ordered isOld fuel rest
          (.operand arg :: more, fault)

/-- Whether keys may be written in the old way, by the year and month of the rules to be followed.
-/
def isOldAllowed (c : Call) : Bool :=
  match (c.env.lookup "_POSIX2_VERSION".toList).bind natural? with
  | some n => !(200112 ≤ n && n < 200809)
  | none => true

def Job.add (k : Job) : Char × Option Chars → Except Fault Job
  | ('c', value) => do
    let letter ←
      match value with
      | none => pure 'c'
      | some t => choose "check".toList t checks
    if k.check.isSome && k.check ≠ some letter then throw (incompatible "cC".toList)
    return { k with check := some letter }
  | ('C', _) =>
    if k.check = some 'c' then .error (incompatible "cC".toList)
    else .ok { k with check := some 'C' }
  | ('m', _) => .ok { k with merge := true }
  | ('s', _) => .ok { k with stable := true }
  | ('u', _) => .ok { k with unique := true }
  | ('z', _) => .ok { k with ending := 0 }
  | ('k', some spec) => (readKey spec).map fun key => { k with keys := k.keys ++ [key] }
  | ('o', some name) =>
    if k.outfile.isSome && k.outfile ≠ some name then
      .error ⟨["multiple output files specified".toList], false, 2⟩
    else .ok { k with outfile := some name }
  | ('t', some t) =>
    let tab : Except Fault UInt8 :=
      match t with
      | [] => .error ⟨["empty tab".toList], false, 2⟩
      | [c] => .ok c.toNat.toUInt8
      | ['\\', '0'] => .ok 0
      | t => .error ⟨["multi-character tab ".toList ++ Quoting.phrase t], false, 2⟩
    match tab with
    | .error fault => .error fault
    | .ok tab =>
      if k.separator.isSome && k.separator ≠ some tab then
        .error ⟨["incompatible tabs".toList], false, 2⟩
      else .ok { k with separator := some tab }
  | ('W', some t) =>
    (choose "sort".toList t ways).map fun c =>
      { k with manner := (k.manner.addLetters true true [c]).1 }
  | ('S', some t) => (bufferSize "-S" t).map fun _ => k
  | ('B', some t) => (bufferSize "--buffer-size" t).map fun _ => k
  | ('P', some t) =>
    match count [] t with
    | .ok (0, _) => .error ⟨["number in parallel must be nonzero".toList], false, 2⟩
    | .ok _ | .error .tooLarge => .ok k
    | .error e => .error (e.fault "--parallel" t)
  | ('N', some t) => (batchSize t).map fun _ => k
  | ('F', some name) => .ok { k with source := some name }
  | ('D', _) => .ok { k with debug := true }
  | ('Q', some name) =>
    if k.chance.isSome && k.chance ≠ some name then
      .error ⟨["multiple random sources specified".toList], false, 2⟩
    else .ok { k with chance := some name }
  | ('Z', some name) =>
    if k.packer.isSome && k.packer ≠ some name then
      .error ⟨["multiple compress programs specified".toList], false, 2⟩
    else .ok { k with packer := some name }
  | ('+', some t) =>
    match oldStart? t with
    | some key => .ok { k with keys := k.keys ++ [key] }
    | none => .ok k
  | ('-', some t) =>
    match k.keys.reverse with
    | key :: others => (oldStop key t).map fun key => { k with keys := (key :: others).reverse }
    | [] => .ok k
  | ('T', _) | ('y', _) => .ok k
  | (c, _) => .ok { k with manner := (k.manner.addLetters true true [c]).1 }

def Job.addAll (k : Job) : List (Char × Option Chars) → Except Fault Job
  | [] => .ok k
  | o :: rest =>
    match k.add o with
    | .ok k => k.addAll rest
    | .error fault => .error fault

/-- Gives keys without a manner of their own the general one; without keys, a manner that is not
the default counts for whole lines. -/
def Job.complete (k : Job) : Except Fault Job :=
  let keys := k.keys.map fun key =>
    if key.manner = {} then { key with manner := k.manner } else key
  let keys := if keys.isEmpty && !k.manner.isDefault then [{ manner := k.manner }] else keys
  match keys.find? (!·.manner.isConsistent) with
  | some key => .error (incompatible key.manner.letters)
  | none => .ok { k with keys }

end PipelineShell.Userland.Sorting
