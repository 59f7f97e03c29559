import PipelineShell.Script.Command.Letters
import PipelineShell.Script.Reader

/-!
# Commands for values

`export`, `local`, `unset`, `set`, `shift`, `getopts` and `alias`.
-/

namespace PipelineShell.Script.Command

open Script.Shell

def shownVariable (verb name : Chars) (v : Variable) : Chars :=
  verb ++ name ++
    match v.value with
    | some t => '=' :: quote t
    | none => []

def listVariables (verb : Chars) (wanted : Variable → Bool) : Run Unit := do
  for (name, v) in (← get).bindings.sorted do
    if wanted v then putLine (shownVariable verb name v)

def splitValue (arg : Chars) : Chars × Option Chars :=
  let name := arg.takeWhile (· ≠ '=')
  match arg.drop name.length with
  | [] => (name, none)
  | _ :: value => (name, some value)

def mark (verb : Chars) (exported readonly : Bool) (args : List Chars) : Run Int := do
  let (options, rest) ← readOptions [('p', false)] args
  if rest.isEmpty || !options.isEmpty then
    listVariables (verb ++ [' ']) fun v => (exported && v.exported) || (readonly && v.readonly)
  else
    for arg in rest do
      let (name, value) := splitValue arg
      let s ← get
      match value, s.bindings.find? name with
      | none, some v =>
        set { s with
          bindings := s.bindings.put name { v with
            exported := v.exported || exported, readonly := v.readonly || readonly } }
      | value, _ => setVariable name value exported readonly
  return 0

def unset (args : List Chars) : Run Int := do
  let (options, names) ← readOptions [('v', false), ('f', false)] args
  let functions := (options.getLast?.map (·.1)) = some 'f'
  for name in names do
    if functions then
      modify fun s => { s with functions := s.functions.filter (·.1 ≠ name) }
    else unsetVariable name
  return 0

def makeAllLocal (args : List Chars) : Run Int := do
  if (← get).frames.isEmpty then fail "not in a function".toList
  for arg in args do
    if arg = ['-'] then
      modify fun s =>
        { s with
          savedFlags := match s.savedFlags with
            | flags :: rest => (s.flags :: flags) :: rest
            | [] => [] }
    else
      let (name, value) := splitValue arg
      makeLocal name value false
  return 0

def setArguments (args : List Chars) : Run Unit :=
  modify fun s => { s with args, optionIndex := 1, optionLetter := none }

def shift (args : List Chars) : Run Int := do
  let n ←
    match args with
    | [] => pure 1
    | arg :: _ => number arg
  let s ← get
  if n > s.args.length then fail "can't shift that many".toList
  setArguments (s.args.drop n)
  return 0

def shellOptions : List (Chars × Option Char) :=
  [("errexit", some 'e'), ("noglob", some 'f'), ("ignoreeof", some 'I'), ("interactive", some 'i'),
    ("monitor", some 'm'), ("noexec", some 'n'), ("stdin", some 's'), ("xtrace", some 'x'),
    ("verbose", some 'v'), ("vi", some 'V'), ("emacs", some 'E'), ("noclobber", some 'C'),
    ("allexport", some 'a'), ("notify", some 'b'), ("nounset", some 'u'), ("privileged", some 'p'),
    ("nolog", none), ("debug", none)].map fun (n, c) => (String.toList n, c)

def turn (flag : Char) (on : Bool) : Run Unit := do
  if !shellOptions.any (·.2 = some flag) then fail ("Illegal option -".toList ++ [flag])
  if flag = 'm' then
    if on then say "can't access tty; job control turned off".toList
    return
  modify fun s =>
    let others := s.flags.filter (· ≠ flag)
    let others := if on && flag = 'V' then others.filter (· ≠ 'E')
      else if on && flag = 'E' then others.filter (· ≠ 'V')
      else others
    { s with flags := if on then others ++ [flag] else others }

def turnNamed (name : Option Chars) (on : Bool) : Run Unit := do
  let s ← get
  let isOn (o : Chars × Option Char) : Bool :=
    match o.2 with
    | some c => s.isOn c
    | none => s.unlettered.contains o.1
  match name with
  | none =>
    if on then
      putLine "Current option settings".toList
      for o in shellOptions do
        let padding := List.replicate (16 - o.1.length) ' '
        putLine (o.1 ++ padding ++ (if isOn o then "on" else "off").toList)
    else
      for o in shellOptions do
        putLine ("set ".toList ++ (if isOn o then "-o " else "+o ").toList ++ o.1)
  | some name =>
    match shellOptions.lookup name with
    | none => fail ("Illegal option -o ".toList ++ name)
    | some (some c) => turn c on
    | some none =>
      set { s with
        unlettered :=
          let others := s.unlettered.filter (· ≠ name)
          if on then name :: others else others }

def turnLetters (on : Bool) : Chars → List Chars → Run (List Chars)
  | [], rest => return rest
  | 'o' :: letters, rest => do
    turnNamed rest.head? on
    turnLetters on letters (rest.drop 1)
  | c :: letters, rest => do
    turn c on
    turnLetters on letters rest

def turnAll : Nat → List Chars → Run (Option (List Chars))
  | 0, _ => return none
  | fuel + 1, args => do
    match args with
    | ['-'] :: rest =>
      turn 'x' false
      turn 'v' false
      return if rest.isEmpty then none else some rest
    | ['-', '-'] :: rest => return some rest
    | ('-' :: letters) :: rest => turnAll fuel (← turnLetters true letters rest)
    | ('+' :: letters) :: rest => turnAll fuel (← turnLetters false letters rest)
    | rest => return if rest.isEmpty then none else some rest

def set_ (args : List Chars) : Run Int := do
  if args.isEmpty then listVariables [] (·.value.isSome)
  else
    match ← turnAll (args.length + 1) args with
    | some args => setArguments args
    | none => pure ()
  return 0

def setQuietly (name value : Chars) : Run Unit := do
  let s ← get
  if s.bindings.isReadonly name then fail (name ++ ": is read only".toList)
  set { s with bindings := s.bindings.set name (some value) (s.isOn 'a') false }

/-- What is found when arguments are looked through for the next option. -/
structure Found where
  letter : Char := '?'
  taken : Option (Option Chars) := none
  complaint : Option Chars := none
  index : Nat
  place : Option Nat := none
  finished : Bool := false

def kindOf (known : Chars) (c : Char) : Option Bool :=
  match known with
  | [] => none
  | d :: ':' :: rest => if d = c then some true else kindOf rest c
  | d :: rest => if d = c then some false else kindOf rest c

def nextOption (known : Chars) (args : List Chars) (index : Nat) (place : Option Nat) : Found :=
  let index := if index = 0 then 1 else index
  let silent := known.head? = some ':'
  let current : Chars :=
    match place with
    | some n => if index ≤ 1 then [] else ((args[index - 2]?).getD []).drop n
    | none => []
  let word := (args[index - 1]?).getD []
  let fresh := current.isEmpty
  if fresh && (word.head? ≠ some '-' || word.length < 2) then { index, finished := true }
  else if fresh && word = ['-', '-'] then { index := index + 1, finished := true }
  else
    let index := if fresh then index + 1 else index
    let letters := if fresh then word.drop 1 else current
    let c := letters.headD '?'
    let rest := letters.drop 1
    let whole := (args[index - 2]?).getD []
    let place := some (whole.length - rest.length)
    match kindOf known c with
    | none =>
      if silent then { taken := some (some [c]), index, place }
      else
        { taken := some none, index, place
          complaint := some ("Illegal option -".toList ++ [c, '\n']) }
    | some false => { letter := c, taken := some (some []), index, place }
    | some true =>
      if !rest.isEmpty then { letter := c, taken := some (some rest), index }
      else
        match args[index - 1]? with
        | some arg => { letter := c, taken := some (some arg), index := index + 1 }
        | none =>
          if silent then { letter := ':', taken := some (some [c]), index }
          else
            { taken := some none, index
              complaint := some ("No arg for -".toList ++ c :: " option\n".toList) }

def getopts (args : List Chars) : Run Int := do
  match ← withoutOptions args with
  | known :: name :: others =>
    let s ← get
    let args := if others.isEmpty then s.args else others
    let tooFar := s.optionIndex > args.length + 1
    let found := nextOption known args (if tooFar then 1 else s.optionIndex)
      (if tooFar then none else s.optionLetter)
    match found.complaint with
    | some t =>
      let _ ← write 2 t
    | none => pure ()
    match found.taken with
    | some (some t) => assign "OPTARG".toList t
    | some none => unsetVariable "OPTARG".toList
    | none => pure ()
    setQuietly "OPTIND".toList (Chars.ofNat found.index)
    assign name [found.letter]
    modify fun s => { s with optionIndex := found.index, optionLetter := found.place }
    return if found.finished then 1 else 0
  | _ => fail "Usage: getopts optstring var [arg...]".toList

def bucket (name : Chars) : Nat :=
  (name.foldl (fun n c => n + c.toNat) (16 * (name.head?.map Char.toNat).getD 0)) % 39

def shownAlias (a : Chars × Chars) : Chars := a.1 ++ '=' :: quote a.2

def setAlias (args : List Chars) : Run Int := do
  let s ← get
  if args.isEmpty then
    let sorted : List (Chars × Chars) := s.aliases.mergeSort fun a b => bucket a.1 ≤ bucket b.1
    for a in sorted do putLine (shownAlias a)
    return 0
  let mut status := 0
  for arg in args do
    let first := arg.take 1
    let (name, value) := splitValue (arg.drop 1)
    let name := first ++ name
    let s ← get
    match value with
    | some value =>
      let replaced (a : Chars × Chars) : Chars × Chars := if a.1 = name then (name, value) else a
      let isNew := (s.aliases.lookup name).isNone
      set { s with
        aliases := if isNew then s.aliases ++ [(name, value)] else s.aliases.map replaced }
    | none =>
      match s.aliases.lookup name with
      | some value => putLine (shownAlias (name, value))
      | none =>
        let _ ← write 2 ("alias: ".toList ++ name ++ " not found\n".toList)
        status := 1
  return status

def unalias (args : List Chars) : Run Int := do
  let (options, names) ← readOptions [('a', false)] args
  if !options.isEmpty then
    modify fun s => { s with aliases := [] }
    return 0
  let mut status := 0
  for name in names do
    let s ← get
    if (s.aliases.lookup name).isSome then
      set { s with aliases := s.aliases.filter (·.1 ≠ name) }
    else
      let _ ← write 2 ("unalias: ".toList ++ name ++ " not found\n".toList)
      status := 1
  return status

end PipelineShell.Script.Command
