import PipelineShell.Script.Command.Letters

/-!
# Commands for limits

The permissions that new files do not get, the actions for signals, and the limits and times of the
process.
-/

namespace PipelineShell.Script.Command

open Script.Shell Userland

/-- Where the change of permissions is that a text describes: whose permissions are meant, one bit
for each, and what has become of all. -/
structure Modes where
  whose : Nat := 0
  now : Nat

/-- The permissions that letters mean, given those that there are, and what is behind the
letters. -/
def permissions (before : Nat) : Nat → Chars → Nat × Chars
  | found, [] => (found, [])
  | found, c :: rest =>
    match c with
    | 'r' => permissions before (found ||| 4) rest
    | 'w' => permissions before (found ||| 2) rest
    | 'x' => permissions before (found ||| 1) rest
    | 'u' => permissions before (found ||| before / 64) rest
    | 'g' => permissions before (found ||| before / 8) rest
    | 'o' => permissions before (found ||| before) rest
    | 'X' => permissions before (if before &&& 0o111 ≠ 0 then found ||| 1 else found) rest
    | 's' => permissions before found rest
    | _ => (found, c :: rest)

def owners : Nat → Chars → Nat × Chars
  | found, [] => (found, [])
  | found, c :: rest =>
    match c with
    | 'a' => owners (found ||| 0o111) rest
    | 'u' => owners (found ||| 0o100) rest
    | 'g' => owners (found ||| 0o010) rest
    | 'o' => owners (found ||| 0o001) rest
    | _ => (found, c :: rest)

def modes (before : Nat) : Nat → Modes → Chars → Option Nat
  | 0, _, _ => none
  | fuel + 1, m, t =>
    if t.isEmpty then some m.now
    else
      let (whose, t) := owners m.whose t
      let whose := if whose = 0 then 0o111 else whose
      match t with
      | [] => none
      | op :: rest =>
        if !"=+-".toList.contains op then none
        else
          let (value, rest) := permissions before 0 rest
          let value := (value &&& 7) * whose
          let now :=
            if op = '-' then m.now &&& (0o777 ^^^ (value &&& 0o777))
            else if op = '=' then value ||| (m.now &&& (0o777 ^^^ (whose * 7 &&& 0o777)))
            else m.now ||| value
          match rest with
          | [] => some now
          | ',' :: rest => modes before fuel ⟨0, now⟩ rest
          | c :: _ =>
            if "=+-".toList.contains c then modes before fuel ⟨whose, now⟩ rest else none

def shownModes (who : Char) (bits : Nat) : Chars :=
  [who, '='] ++ (if bits &&& 4 ≠ 0 then ['r'] else []) ++ (if bits &&& 2 ≠ 0 then ['w'] else []) ++
    (if bits &&& 1 ≠ 0 then ['x'] else [])

def umask (args : List Chars) : Run Int := do
  let (options, rest) ← readOptions [('S', false)] args
  let mask := (← get).mask
  let allowed := 0o777 ^^^ (mask &&& 0o777)
  match rest with
  | [] =>
    if options.isEmpty then
      let digits := Nat.toDigits 8 mask
      putLine (List.replicate (4 - digits.length) '0' ++ digits)
    else
      putLine (shownModes 'u' (allowed / 64) ++ [','] ++ shownModes 'g' (allowed / 8) ++ [','] ++
        shownModes 'o' allowed)
  | arg :: _ =>
    if arg.head?.any Char.isDigit then
      if !arg.all fun c => '0' ≤ c && c < '8' then badNumber arg
      let n := arg.foldl (fun n c => 8 * n + (c.toNat - 48)) 0
      modify fun s => { s with mask := n &&& 0o777 }
    else
      match modes allowed arg.length.succ ⟨0, allowed⟩ arg with
      | some n => modify fun s => { s with mask := 0o777 ^^^ (n &&& 0o777) }
      | none => fail ("Illegal mode: ".toList ++ arg)
  return 0

def trap (args : List Chars) : Run Int := do
  let args ← withoutOptions args
  match args with
  | [] =>
    let inOrder (a b : Nat × Chars) : Bool := a.1 ≤ b.1
    for (n, action) in (← get).actions.mergeSort inOrder do
      putLine ("trap -- ".toList ++ quote action ++ ' ' :: Signal.name n)
    return 0
  | first :: rest =>
    let isReset := rest.isEmpty || (Signal.read? Signal.limit first).isSome
    let action := if isReset || first = ['-'] then none else some first
    for t in if isReset then args else rest do
      match Signal.read? 0 t with
      | none =>
        let _ ← write 2 ("trap: ".toList ++ t ++ ": bad trap\n".toList)
        return 1
      | some n =>
        modify fun s =>
          let others := s.actions.filter (·.1 ≠ n)
          { s with
            actions :=
              match action with
              | some t => others ++ [(n, t)]
              | none => others }
    return 0

def times : Run Int := do
  putLine "0m0.000000s 0m0.000000s".toList
  putLine "0m0.000000s 0m0.000000s".toList
  return 0

/-- A kind of limit. -/
structure Limit where
  letter : Char
  name : Chars
  unit : Nat := 1
  soft : Option Nat := none
  hard : Option Nat := none

def limits : List Limit :=
  [{ letter := 't', name := "time(seconds)".toList },
    { letter := 'f', name := "file(blocks)".toList, unit := 512 },
    { letter := 'd', name := "data(kbytes)".toList, unit := 1024 },
    { letter := 's', name := "stack(kbytes)".toList, unit := 1024, soft := some (8192 * 1024) },
    { letter := 'c', name := "coredump(blocks)".toList, unit := 512, soft := some 0 },
    { letter := 'm', name := "memory(kbytes)".toList, unit := 1024 },
    { letter := 'l', name := "locked memory(kbytes)".toList, unit := 1024
      soft := some (8192 * 1024), hard := some (8192 * 1024) },
    { letter := 'p', name := "process".toList },
    { letter := 'n', name := "nofiles".toList, soft := some openLimit, hard := some openLimit },
    { letter := 'v', name := "vmemory(kbytes)".toList, unit := 1024 },
    { letter := 'w', name := "locks".toList },
    { letter := 'r', name := "rtprio".toList, soft := some 0, hard := some 0 }]

def Limit.of (l : Limit) (s : Shell) : Limit :=
  match s.limits.lookup l.letter with
  | some (soft, hard) => { l with soft, hard }
  | none => l

def Limit.shown (l : Limit) (hard : Bool) : Chars :=
  match if hard then l.hard else l.soft with
  | none => "unlimited".toList
  | some n => Chars.ofNat (n / l.unit)

def limitValues : Nat := 0x10000000000000000

def Limit.read? (l : Limit) (t : Chars) : Option (Option Nat) :=
  if t = "unlimited".toList then some none
  else if !t.all Char.isDigit then none
  else
    let n := t.foldl (fun n c => 10 * n + (c.toNat - 48)) 0
    let n := n * l.unit % limitValues
    some (if n = limitValues - 1 then none else some n)

def isAbove : Option Nat → Option Nat → Bool
  | _, none => false
  | none, some _ => true
  | some a, some b => b < a

def Limit.put (l : Limit) (soft hard : Bool) (value : Option Nat) : Run Unit := do
  let l : Limit :=
    { l with soft := if soft then value else l.soft, hard := if hard then value else l.hard }
  let refuse (e : SystemError) : Run Unit :=
    fail ("error setting limit (".toList ++ e.wording ++ [')'])
  if isAbove l.soft l.hard then refuse .invalid
  else if l.letter = 'n' && isAbove l.hard (some openLimit) then refuse .notPermitted
  else modify fun s =>
    { s with
      limits := (l.letter, l.soft, l.hard) :: s.limits.filter (·.1 ≠ l.letter) }

def ulimit (args : List Chars) : Run Int := do
  let known := ['H', 'S', 'a'] ++ limits.map (·.letter)
  let (options, rest) ← readOptions (known.map fun c => (c, false)) args
  let letters := options.map (·.1)
  let isAll := letters.contains 'a'
  let kind := (letters.filter fun c => c = 'H' || c = 'S').getLast?
  let letter := ((letters.filter fun c => !"HSa".toList.contains c).getLast?).getD 'f'
  if rest.length > 1 || (isAll && !rest.isEmpty) then fail "too many arguments".toList
  let s ← get
  let shows (l : Limit) : Chars := (l.of s).shown (kind = some 'H')
  match limits.find? (·.letter = letter), rest with
  | some l, arg :: _ =>
    match l.read? arg with
    | none => fail "bad number".toList
    | some value => (l.of s).put (kind ≠ some 'H') (kind ≠ some 'S') value
  | some l, [] =>
    if isAll then
      for l in limits do
        putLine (l.name ++ List.replicate (20 - l.name.length) ' ' ++ ' ' :: shows l)
    else putLine (shows l)
  | none, _ => return 0
  return 0

end PipelineShell.Script.Command
