import PipelineShell.Script.Command.Letters

/-!
# Commands for processes

`kill`, `jobs` and `wait`.
-/

namespace PipelineShell.Script.Command

open Script.Shell Userland

def statusOf (ending : Int) : Int := if ending < 0 then 128 - ending else ending

def findJob (t : Option Chars) : Run Job := do
  let s ← get
  let newest := s.jobs.reverse
  let current (found : Option Job) (message : String) : Run Job :=
    match found with
    | some j => return j
    | none => fail message.toList
  match t with
  | none | some ['%'] | some ['%', '%'] | some ['%', '+'] => current newest.head? "No current job"
  | some ['%', '-'] => current (newest[1]?) "No previous job"
  | some t =>
    let missing : Run Job := fail ("No such job: ".toList ++ t)
    match t with
    | '%' :: digits =>
      if digits.all Char.isDigit then
        let n := digits.foldl (fun n c => 10 * n + (c.toNat - 48)) 0
        match s.jobs.find? (·.number = n) with
        | some j => return j
        | none => missing
      else missing
    | _ => missing

/-! ### The ends of processes -/

def note (number : Nat) (ending : Int) : Run Unit := modify fun s =>
  { s with jobs := s.jobs.map (·.note number ending) }

def tellEnd (ending : Int) : Run Unit := do
  let signal := ending.natAbs
  if ending < 0 && signal ≠ 2 && signal ≠ 13 then
    let _ ← write 2 (Signal.description signal ++ ['\n'])

def reapAll (act : Nat → Int → Run Unit) : Run Unit := do
  let step (x : Unit) : Run (Bool × Unit) := do
    let self := (← get).self
    match ← onMachine (·.reap? self) with
    | none => return (false, x)
    | some (number, ending) => do
      note number ending
      act number ending
      return (true, x)
  iterate step rounds ()

def awaitEnd (attentive : Bool) : Run (Option (Nat × Int)) := do
  let self := (← get).self
  task <| Userland.Task.await fun m =>
    match m.reap? self with
    | (some ended, m) => .ok (some ended, m)
    | (none, m) =>
      if attentive && (m.process? self).any (!·.pending.isEmpty) then .ok (none, m) else .error m

def waitFor (processes : List Nat) : Run Int := do
  let tell (number : Nat) (ending : Int) : Run Unit := do
    if processes.contains number then tellEnd ending
  let step (x : List Nat × Int) : Run (Bool × List Nat × Int) := do
    match ← awaitEnd false with
    | none => return (false, x)
    | some (number, ending) => do
      note number ending
      tell number ending
      let left := x.1.filter (· ≠ number)
      let status := if processes.getLast? = some number then statusOf ending else x.2
      return (!left.isEmpty, left, status)
  let (_, status) ← iterate step rounds (processes, 0)
  reapAll fun _ _ => return
  return status

/-- Takes notice of ends as long as something holds of the commands in the background; the first
signal that has been caught meanwhile comes out. -/
def waitWhile (goesOn : List Job → Bool) (own : List Nat) : Run (Option Nat) := do
  let step (x : Option Nat) : Run (Bool × Option Nat) := do
    if !goesOn (← get).jobs then return (false, x)
    match ← awaitEnd true with
    | some (number, ending) => do
      note number ending
      if own.contains number then tellEnd ending
      return (true, x)
    | none => do
      let s ← get
      return (false, (s.machine.process? s.self).bind (·.pending.getLast?))
  iterate step rounds none

def markWaited (number : Nat) : Run Unit := modify fun s =>
  { s with
    jobs := s.jobs.map fun j => if j.number = number then { j with waited := true } else j }

def waitForJob (j : Job) : Run (Option Nat) := do
  let own := j.processes.map (·.1)
  let isOpen (jobs : List Job) : Bool := jobs.any fun k => k.number = j.number && k.isRunning
  if !isOpen (← get).jobs then return none
  match ← waitWhile isOpen own with
  | some signal => return some signal
  | none => do
    reapAll fun number ending => if own.contains number then tellEnd ending else return
    return none

def waitForAll : (status : Int) → List Chars → Run Int
  | status, [] => return status
  | status, arg :: rest => do
    let found : Option Job ←
      match arg with
      | '%' :: _ => do pure (some (← findJob (some arg)))
      | arg => do
        let n ← number arg
        pure ((← get).jobs.reverse.find? (·.process = n))
    match found with
    | none => waitForAll status rest
    | some j => do
      match ← waitForJob j with
      | some signal => return 128 + (signal : Int)
      | none => do
        markWaited j.number
        let ending := ((← get).jobs.find? (·.number = j.number)).bind Job.status?
        waitForAll (statusOf (ending.getD 0)) rest

def wait (args : List Chars) : Run Int := do
  let args ← withoutOptions args
  if args.isEmpty then
    match ← waitWhile (·.any Job.isRunning) [] with
    | some signal => return 128 + (signal : Int)
    | none => do
      for j in (← get).jobs do markWaited j.number
      return 0
  waitForAll 127 args

/-! ### Signals -/

def send (process signal : Nat) : Run Bool := do
  let s ← get
  if process = s.self then
    if signal ≠ 0 then receive signal
    return true
  if (s.machine.process? process).isNone then return false
  if signal ≠ 0 then set { s with machine := s.machine.send process signal }
  return true

/-- How `kill` is to be called. -/
def killUsage : Chars :=
  "Usage: kill [-s sigspec | -signum | -sigspec] [pid | job]... or\nkill -l [exitstatus]".toList

/-- Sends a signal to processes, or tells the names of signals. A command in the background is no
group of processes to which a signal could be sent. -/
def kill (args : List Chars) : Run Int := do
  if args.isEmpty then fail killUsage
  let (signal, list, rest) : Option Nat × Bool × List Chars ←
    match args with
    | ('-' :: name) :: rest =>
      match Signal.read? 1 name with
      | some n => pure (some n, false, rest)
      | none => do
        let (options, rest) ← readOptions [('l', false), ('s', true)] args
        let mut signal := none
        for (c, name) in options do
          if c = 's' then
            match Signal.read? 1 name with
            | some n => signal := some n
            | none => fail ("invalid signal number or name: ".toList ++ name)
        pure (signal, options.any (·.1 = 'l'), rest)
    | args => pure (none, false, args)
  let signal := if list then signal else some (signal.getD 15)
  if (signal.isNone || rest.isEmpty) != list then fail killUsage
  if list then
    match rest with
    | [] =>
      putLine ['0']
      for n in (List.range Signal.limit).drop 1 do putLine (Signal.name n)
    | arg :: _ =>
      let n ← number arg
      let n := if n > 128 then n - 128 else n
      if 0 < n && n < Signal.limit then putLine (Signal.name n)
      else fail ("invalid signal number or exit status: ".toList ++ arg)
    return 0
  let mut status := 0
  for arg in rest do
    let sent ←
      match arg with
      | '%' :: _ => do
        let _ ← findJob (some arg)
        pure false
      | '-' :: rest => do
        let _ ← number rest
        pure false
      | arg => do
        let n ← number arg
        send n (signal.getD 15)
    if !sent then
      say "No such process\n".toList
      status := 1
  return status

def shownJob (current previous : Bool) (numbered : Bool) (j : Job) : Chars :=
  let sign := if current then '+' else if previous then '-' else ' '
  let head := '[' :: Chars.ofNat j.number ++ ['\x5d', ' ', sign, ' ']
  let state :=
    match j.status? with
    | none => "Running".toList
    | some n =>
      if n < 0 then Signal.description n.natAbs
      else if n = 0 then "Done".toList
      else "Done(".toList ++ Chars.ofInt n ++ [')']
  let padded (t : Chars) : Chars := t ++ List.replicate (max 1 (33 - t.length)) ' '
  let numbers := j.processes.map fun p => Chars.ofNat p.1
  let others := numbers.drop 1
  if numbered then
    padded (head ++ numbers.headD [] ++ ' ' :: state) ++ others.flatMap fun n =>
      let t := List.replicate head.length ' ' ++ n ++ [' ']
      " |\n".toList ++ t ++ List.replicate (max 1 (33 - t.length)) ' '
  else padded (head ++ state) ++ others.flatMap fun _ => " | ".toList

def listJobs (tell : (current previous : Bool) → Job → Chars) : Nat → List Job → Run Unit
  | 0, _ => return
  | fuel + 1, rest => do
    match rest with
    | [] => return
    | j :: rest =>
      let newest := (← get).jobs.reverse
      putLine (tell ((newest.head?.map (·.number)) = some j.number)
        ((newest[1]?.map (·.number)) = some j.number) j)
      if !j.isRunning then
        modify fun s => { s with jobs := s.jobs.filter (·.number ≠ j.number) }
      listJobs tell fuel rest

def jobs (args : List Chars) : Run Int := do
  let (options, rest) ← readOptions [('l', false), ('p', false)] args
  let tell : Bool → Bool → Job → Chars :=
    if options.getLast?.any (·.1 = 'p') then fun _ _ j =>
      Chars.ofNat ((j.processes.head?.map (·.1)).getD 0)
    else fun current previous => shownJob current previous (options.any (·.1 = 'l'))
  reapAll fun _ _ => return
  let s ← get
  match rest with
  | [] => listJobs tell s.jobs.length.succ s.jobs.reverse
  | rest =>
    for t in rest do
      let j ← findJob (some t)
      listJobs tell 1 [j]
  return 0

def resume (args : List Chars) : Run Int := do
  let rest ← withoutOptions args
  let j ← findJob rest.head?
  fail ("job ".toList ++ Chars.ofNat j.number ++ " not created under job control".toList)

end PipelineShell.Script.Command
