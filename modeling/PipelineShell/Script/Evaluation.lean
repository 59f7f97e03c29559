import PipelineShell.Script.Command.Condition
import PipelineShell.Script.Command.Directory
import PipelineShell.Script.Command.Input
import PipelineShell.Script.Command.Limit
import PipelineShell.Script.Command.Output
import PipelineShell.Script.Command.Process
import PipelineShell.Script.Command.Value
import PipelineShell.Script.Plan
import PipelineShell.Script.Reader
import PipelineShell.Script.Starting

/-!
# Running commands

Commands by recursion on a depth. Subshells, programs and the stages of a pipeline are processes for
which the shell waits, unless they are in the background.
-/

namespace PipelineShell.Script.Evaluation

open Script.Shell Userland

/-- How a command is run. -/
structure Mode where
  tested : Bool := false
  last : Bool := false

def overflow {α : Type} : Run α := die 11

def setStatus (status : Int) : Run Unit := modify fun s => { s with status }

def isGoing : Run Bool := do return (← get).skip = .nothing

/-- What a loop is to pass over after its body has been run: nothing to go on, the rest of this
round, or the loop itself. -/
def leaveRound : Run Skip := do
  let s ← get
  match s.skip with
  | .break n =>
    set { s with skip := if n ≤ 1 then .nothing else .break (n - 1) }
    return s.skip
  | .continue n =>
    set { s with skip := if n ≤ 1 then .nothing else .continue (n - 1) }
    return if n ≤ 1 then s.skip else .break n
  | skip => return skip

def passLoops (skip : Nat → Skip) (args : List Chars) : Run Int := do
  let n ←
    match args with
    | [] => pure 1
    | arg :: _ => do
      let n ← number arg
      if n = 0 then badNumber arg
      pure n
  let n := min n (← get).loopDepth
  if n > 0 then modify fun s => { s with skip := skip n }
  return 0

def leaveFunction (args : List Chars) : Run Int := do
  match args with
  | [] =>
    modify fun s => { s with skip := .function false }
    return (← get).status
  | arg :: _ =>
    let n ← number arg
    modify fun s => { s with skip := .function true }
    return n

def arrive : Run Unit := modify fun s =>
  { s with
    skip :=
      match s.skip with
      | .function _ => .nothing
      | skip => skip }

def exit (args : List Chars) : Run Int := do
  match args with
  | [] => pure ()
  | arg :: _ =>
    let n ← number arg
    modify fun s => { s with saved := some n }
  throw .exited

def parse (source : Source) : Run (Option (Option Node × Source)) := do
  let s ← get
  let source : Source :=
    { source with replacements := s.aliases, documents := s.documents, exhausted := false }
  match Source.readCommandLine.run source with
  | .error fault =>
    modify fun s => { s with line := fault.line }
    fail fault.message
  | .ok (found, source) =>
    set { s with documents := source.documents, readLine := source.line }
    return found.map (·, source)

def blockSize : Nat := 8192

abbrev Origin := Option Nat

def Origin.number? (o : Origin) (s : Shell) : Option Nat :=
  match o with
  | some number => some number
  | none => s.descriptors.lookup 0

def readBlock (origin : Origin) (source : Source) : Run (Option Source) := do
  match origin.number? (← get) with
  | none => return none
  | some number =>
    match ← task (Userland.Task.read number blockSize) with
    | .error _ | .ok [] => return none
    | .ok block =>
      let more := (Octets.ofBytes block).filter (· ≠ '\x00')
      return some { source with rest := source.rest ++ more }

def tell (before : Source) (after : Nat) : Run Unit := do
  if (← get).isOn 'v' then
    let _ ← write 2 (before.rest.take (before.rest.length - after))

def parseFile (origin : Origin) (source : Source) : Run (Option (Option Node × Source)) := do
  let s ← get
  let step (x : Source × Except Fault (Option (Option Node) × Source)) :
      Run (Bool × Source × Except Fault (Option (Option Node) × Source)) := do
    let isEnough :=
      match x.2 with
      | .error _ => false
      | .ok (_, after) => !after.exhausted
    if isEnough then return (false, x)
    match ← readBlock origin x.1 with
    | some source => return (true, source, Source.readCommandLine.run source)
    | none => return (false, x)
  let source : Source :=
    { source with replacements := s.aliases, documents := s.documents, exhausted := false }
  let (source, result) ← iterate step rounds (source, Source.readCommandLine.run source)
  match result with
  | .error fault =>
    let lines := (Text.splitOn '\n' source.rest).drop (fault.line - source.line + 1)
    tell source (Text.join ['\n'] lines).length
    modify fun s => { s with line := fault.line }
    fail fault.message
  | .ok (found, after) =>
    tell source after.rest.length
    modify fun s => { s with documents := after.documents, readLine := after.line }
    return found.map (·, after)

def functionLimit : Nat := 1000

def freeNumber (jobs : List Job) : Nat :=
  ((List.range (jobs.length + 1)).find? fun n => !jobs.any (·.number = n + 1)).getD 0 + 1

def addJob (processes : List Nat) : Run Unit := modify fun s =>
  { s with
    jobs := s.jobs ++ [⟨freeNumber s.jobs, processes.map (·, none), false⟩]
    lastBackground := processes.getLast?.getD s.lastBackground
    status := 0 }

def unattended (empty : Nat) (c : Shell) : Shell :=
  { c with
    descriptors := c.descriptors.filter (·.1 ≠ 0) ++ [(0, empty)]
    ignored := 2 :: 3 :: c.ignored }

def joined (reserved : List Nat) (input output : Option Nat) (c : Shell) : Shell :=
  let lead (descriptor : Nat) (number : Option Nat) (ds : List (Nat × Nat)) : List (Nat × Nat) :=
    match number with
    | some n => ds.filter (·.1 ≠ descriptor) ++ [(descriptor, n)]
    | none => ds
  { c with descriptors := lead 1 output (lead 0 input c.descriptors), reserved }

def makePipe : Run (Nat × Nat) := Redirecting.makePipe []

def lookAhead : List Node → Run Unit
  | [] => return
  | node :: rest => do
    match node with
    | .simple _ _ (word :: _) _ =>
      match Source.plain? word with
      | some name =>
        if isName name then
          let _ ← Lookup.find name true none false
      | none => pure ()
    | _ => pure ()
    lookAhead rest

/-- The file that commands are to be read from: one with a slash in its name, or one on the search
path. -/
def findFile (name : Chars) : Run Chars := do
  if name.contains '/' then return name
  let s ← get
  let isFile (path : Chars) : Bool :=
    match s.files.entry? s.cwd (Shell.path path) with
    | .ok (.file _ _) | .ok (.program _) => true
    | _ => false
  match (Lookup.candidates s.searchPath name).find? isFile with
  | some path => return path
  | none => fail (name ++ ": not found".toList)

def hash (args : List Chars) : Run Int := do
  let (options, names) ← Command.readOptions [('r', false)] args
  if !options.isEmpty then
    modify fun s => { s with found := [] }
    return 0
  if names.isEmpty then
    Lookup.list
    return 0
  let mut status := 0
  for name in names do
    Lookup.forget name
    match ← Lookup.find name true none true with
    | .missing => status := 1
    | _ => pure ()
  return status

def describe (args : List Chars) : Run Int := do
  let mut status := 0
  for name in args do
    if (← Lookup.describe true none name) ≠ 0 then status := 127
  return status

def describeOne (args : List Chars) : Run Int := do
  let (options, names) ← Command.readOptions [('p', false), ('v', false), ('V', false)] args
  let path := if options.any (·.1 = 'p') then some Lookup.standardPath else none
  match names with
  | name :: _ =>
    if options.any (·.1 = 'V') then Lookup.describe true path name
    else if options.any (·.1 = 'v') then Lookup.describe false path name
    else return 0
  | [] => return 0

section

variable (host : Host)

mutual

def run : Nat → Mode → Node → Run Unit
  | 0, _, _ => overflow
  | fuel + 1, mode, node => do
    takeActions fuel
    let strict ← if (← get).isOn 'n' then pure false else perform fuel mode node
    takeActions fuel
    let s ← get
    if (strict && s.isOn 'e' && !mode.tested && s.status ≠ 0) || mode.last then throw .ended

def perform : Nat → Mode → Node → Run Bool
  | 0, _, _ => overflow
  | fuel + 1, mode, node => do
    let inner : Mode := { tested := mode.tested }
    match node with
    | .simple line assignments words redirections => do
      setStatus (← simple fuel mode line assignments words redirections)
      return true
    | .pipeline stages true => do
      backgroundPipeline fuel stages
      return true
    | .pipeline stages false => do
      setStatus (← pipeline fuel mode stages)
      return true
    | .background line body redirections => do
      modify fun s => { s with line }
      background fuel body redirections
      return true
    | .subshell line body redirections => do
      modify fun s => { s with line }
      setStatus (← subshell fuel mode body redirections)
      return true
    | .negation body => do
      run fuel { tested := true } body
      if ← isGoing then setStatus (if (← get).status = 0 then 1 else 0)
      return false
    | .both first second => do
      run fuel { tested := true } first
      let s ← get
      if s.status = 0 && s.skip = .nothing then run fuel mode second
      return false
    | .either first second => do
      run fuel { tested := true } first
      let s ← get
      if s.status ≠ 0 && s.skip = .nothing then run fuel mode second
      return false
    | .sequence first second => do
      run fuel inner first
      if ← isGoing then run fuel mode second
      return false
    | .redirected line body redirections => do
      modify fun s => { s with line }
      let changes ← Redirecting.prepare (substitute fuel) redirections
      let saved ← Redirecting.save changes
      if ← Redirecting.attempt (substitute fuel) saved changes then
        try
          run fuel inner body
        finally
          Redirecting.restore saved
      else setStatus 2
      return false
    | .branch condition body otherwise => do
      run fuel { tested := true } condition
      let s ← get
      if s.skip = .nothing then
        if s.status = 0 then run fuel mode body
        else
          match otherwise with
          | some node => run fuel mode node
          | none => setStatus 0
      return false
    | .loop untilTrue condition body => do
      repeatLoop fuel inner untilTrue condition body
      return false
    | .each line name words body => do
      modify fun s => { s with line }
      eachLoop fuel inner name words body
      return false
    | .select line subject arms => do
      modify fun s => { s with line }
      select fuel mode subject arms
      return false
    | .define _ name body => do
      Lookup.forget name
      modify fun s =>
        { s with functions := (name, body) :: s.functions.filter (·.1 ≠ name), status := 0 }
      return false

def repeatLoop : Nat → Mode → Bool → Node → Node → Run Unit
  | 0, _, _, _, _ => overflow
  | fuel + 1, mode, untilTrue, condition, body => do
    modify fun s => { s with loopDepth := s.loopDepth + 1 }
    let goesOn (skip : Skip) : Bool :=
      match skip with
      | .nothing | .continue _ => true
      | _ => false
    let round (status : Int) : Run (Bool × Int) := do
      run fuel { tested := true } condition
      let holds := (← get).status
      let skip ← leaveRound
      match skip with
      | .nothing =>
        if (holds = 0) = untilTrue then return (false, status)
        run fuel mode body
        let status := (← get).status
        return (goesOn (← leaveRound), status)
      | .function true => return (false, holds)
      | skip => return (goesOn skip, status)
    let status ← iterate round rounds 0
    modify fun s => { s with loopDepth := s.loopDepth - 1, status }

def eachLoop : Nat → Mode → Chars → List (List Part) → Node → Run Unit
  | 0, _, _, _, _ => overflow
  | fuel + 1, mode, name, words, body => do
    let mut fields := []
    for word in words do
      fields := fields ++ (← Expansion.fields (substitute fuel) word)
    modify fun s => { s with loopDepth := s.loopDepth + 1 }
    let mut status := 0
    for field in fields do
      assign name field
      run fuel mode body
      status := (← get).status
      match ← leaveRound with
      | .nothing | .continue _ => pure ()
      | _ => break
    modify fun s => { s with loopDepth := s.loopDepth - 1, status }

def select : Nat → Mode → List Part → List (List (List Part) × Option Node) → Run Unit
  | 0, _, _, _ => overflow
  | fuel + 1, mode, subject, arms => do
    let t ← Expansion.text (substitute fuel) false subject
    let mut chosen := none
    for (patterns, body) in arms do
      for pattern in patterns do
        if chosen.isNone then
          let p ← Expansion.pattern (substitute fuel) pattern
          if Pattern.isMatch p t then chosen := some body
    match chosen with
    | some (some body) => run fuel mode body
    | _ => setStatus 0

def conclude : Nat → Run Unit → Run Int
  | 0, _ => return -11
  | fuel + 1, work => do
    let stop ← attempt work
    let s ← get
    let status : Int ←
      match stop with
      | some (.killed n) => pure (-n)
      | stop => do
        let status := if stop = some .exited then s.saved.getD s.status else s.status
        set { s with
          status, skip := .nothing, loopDepth := 0, saved := some status, speaker := none
          actions := s.actions.filter (·.1 ≠ 0) }
        match s.actions.lookup 0 with
        | none => pure status
        | some t => do
          match ← attempt (runText fuel {} t) with
          | none => pure status
          | some .exited => do pure ((← get).saved.getD status)
          | some (.killed n) => pure (-n)
          | some _ => do pure (← get).status
    return if status < 0 then status else status % 256

def subshell : Nat → Mode → Node → List Redirection → Run Int
  | 0, _, _, _ => overflow
  | fuel + 1, mode, body, redirections => do
    let changes ← Redirecting.prepare (substitute fuel) redirections
    let inner : Mode := { tested := mode.tested, last := true }
    let work : Run Unit := do
      for change in changes do Redirecting.perform (substitute fuel) change
      run fuel inner body
    if mode.last && !(← get).hasActions then
      work
      return (← get).status
    Command.waitFor [← spawn id (conclude fuel work)]

def background : Nat → Node → List Redirection → Run Unit
  | 0, _, _ => overflow
  | fuel + 1, node, redirections => do
    let changes ← Redirecting.prepare (substitute fuel) redirections
    let work : Run Unit := do
      for change in changes do Redirecting.perform (substitute fuel) change
      run fuel { last := true } node
    let empty ← onMachine (·.add (.device .null))
    addJob [← spawn (unattended empty) (conclude fuel work)]

/-- Starts the stages of a pipeline, the first of which reads from `input` if that is given; their
numbers come out. All begin with the same shell. -/
def startStages : Nat → Mode → (arrange : Shell → Shell) → (input : Option Nat) → List Node →
    Run (List Nat)
  | 0, _, _, _, _ => overflow
  | _ + 1, _, _, _, [] => return []
  | fuel + 1, mode, arrange, input, node :: rest => do
    let reserved := (← get).reserved
    let next : Option (Nat × Nat) ← if rest.isEmpty then pure none else some <$> makePipe
    let work := conclude fuel (run fuel mode node)
    let first ← spawn (fun c => joined reserved input (next.map (·.2)) (arrange c)) work
    match next with
    | none => return [first]
    | some (reading, _) => do
      modify fun s => { s with reserved := reading :: s.reserved }
      let others ← startStages fuel mode (joined reserved none none) (some reading) rest
      modify fun s => { s with reserved := s.reserved.erase reading }
      return first :: others

def pipeline : Nat → Mode → List Node → Run Int
  | 0, _, _ => overflow
  | fuel + 1, mode, stages => do
    lookAhead stages
    Command.waitFor (← startStages fuel { tested := mode.tested, last := true } id none stages)

def backgroundPipeline : Nat → List Node → Run Unit
  | 0, _ => overflow
  | fuel + 1, stages => do
    lookAhead stages
    let empty ← onMachine (·.add (.device .null))
    addJob (← startStages fuel { last := true } (unattended empty) none stages)

def substitute : Nat → Option Node → Run Chars
  | 0, _ => overflow
  | _ + 1, none => return []
  | fuel + 1, some node => do
    let (reading, writing) ← makePipe
    let reserved := (← get).reserved
    let process ← spawn (joined reserved none (some writing))
      (conclude fuel (run fuel { last := true } node))
    modify fun s => { s with reserved := reading :: s.reserved }
    let bytes ← task (Userland.Task.readAll reading)
    modify fun s => { s with reserved := s.reserved.erase reading }
    let status ← Command.waitFor [process]
    modify fun s => { s with outputStatus := status }
    return Octets.ofBytes (bytes.toOption.getD [])

def takeActions : Nat → Run Unit
  | 0 => overflow
  | fuel + 1 => do
    receiveAll
    let s ← get
    if !s.pending.isEmpty then
      let status := s.saved.getD s.status
      set { s with saved := some status }
      for signal in s.pending.mergeSort (· ≤ ·) do
        if ← isGoing then
          modify fun s => { s with pending := s.pending.filter (· ≠ signal) }
          match (← get).actions.lookup signal with
          | none => pure ()
          | some t =>
            let _ ← runText fuel {} t
            if (← get).skip ≠ .function true then setStatus status
      modify fun t => { t with saved := s.saved }

def runText : Nat → Mode → Chars → Run Int
  | 0, _, _ => overflow
  | fuel + 1, mode, t => do
    let before := (← get).readLine
    let step (x : Source × Int) : Run (Bool × Source × Int) := do
      match ← parse x.1 with
      | none => return (false, x)
      | some (node, source) =>
        let last := mode.last && source.pushed && source.last = .finish
        match node with
        | some node =>
          run fuel { mode with last } node
          return (← isGoing, source, (← get).status)
        | none =>
          if last then throw .ended
          return (true, source, x.2)
    let (_, status) ← iterate step rounds ({ rest := t }, 0)
    modify fun s => { s with readLine := before }
    return status

def expandedValue : Nat → Chars → Run Chars
  | 0, _ => overflow
  | fuel + 1, name => do
    let s ← get
    let plain := (s.value? name).getD []
    match Source.readQuotable.run { rest := plain, documents := s.documents } with
    | .error fault => do
      say fault.message
      return plain
    | .ok (parts, source) => do
      set { s with documents := source.documents, tracing := true }
      let t ← tryCatch (Expansion.document (substitute fuel) ⟨parts, true⟩) fun
        | .failed => return plain
        | stop => throw stop
      modify fun t => { t with tracing := s.tracing, status := s.status }
      return t

/-- Runs the commands in a file; the status of the last one comes out. With `asking`, they are asked
for, and what fails does not stop the shell. -/
def runFile : Nat → (asking : Bool) → Origin → Run Int
  | 0, _, _ => overflow
  | fuel + 1, asking, origin => do
    let before := (← get).readLine
    let ask (name : String) : Run Unit := do
      if asking then
        let _ ← write 2 (← expandedValue fuel name.toList)
    let step (x : Source × Int) : Run (Bool × Source × Int) := do
      ask "PS1"
      match ← parseFile origin x.1 with
      | none =>
        if asking then
          let _ ← write 2 ['\n']
        return (false, x)
      | some (node, source) =>
        for _ in (List.range (source.line - x.1.line)).drop 1 do ask "PS2"
        match node with
        | none => return (true, source, x.2)
        | some node =>
          run fuel {} node
          return (← isGoing, source, (← get).status)
    let lenient (x : Source × Int) : Run (Bool × Source × Int) :=
      tryCatch (step x) fun
        | .failed => do
          modify fun s => { s with skip := .nothing, loopDepth := 0 }
          return (true, { rest := [], line := (← get).readLine }, 2)
        | stop => throw stop
    let (_, status) ← iterate (if asking then lenient else step) rounds ({ rest := [] }, 0)
    modify fun s => { s with readLine := before }
    arrive
    return status

def simple : Nat → Mode → (line : Nat) → List (Chars × List Part) → List (List Part) →
    List Redirection → Run Int
  | 0, _, _, _, _, _ => overflow
  | fuel + 1, mode, line, assignments, words, redirections => do
    pause
    modify fun s => { s with line, outputStatus := 0 }
    let p ← Plan.ofWords (substitute fuel) words
    let start ← get
    let temporary := p.isTemporary
    if temporary then
      modify fun s => { s with frames := [] :: s.frames, savedFlags := [] :: s.savedFlags }
    let changes ← Redirecting.prepare (substitute fuel) redirections
    let saved ← Redirecting.save changes
    let leave (keep : Bool) : Run Unit := do
      if !keep then Redirecting.restore saved
      if temporary then leaveFrame
    if !(← Redirecting.attempt (substitute fuel) saved changes) then
      setStatus 2
      if p.special = some true then throw .failed
      if temporary then leaveFrame
      return 2
    let stop ← attempt do
      let mut shown := []
      for (name, value) in assignments do
        let t ← Expansion.text (substitute fuel) true value
        if temporary then makeLocal name (some t) true
        else setVariable name (some t) (p.isExec && p.argv.length > 1) false
        shown := shown ++ [name ++ '=' :: t]
      if (← get).isOn 'x' && !(← get).tracing then
        trace fuel (start.descriptors.lookup 2) (shown ++ p.fields)
    match stop with
    | none => pure ()
    | some stop =>
      Redirecting.restore saved
      throw stop
    let stop ← attempt do setStatus (← execute fuel mode p)
    match stop with
    | none =>
      leave p.isExec
      return (← get).status
    | some stop =>
      let isForgiven :=
        match p.meaning, stop with
        | .verb _, .failed => p.special ≠ some true && !p.fields.isEmpty
        | _, _ => false
      if !isForgiven then
        Redirecting.restore saved
        throw stop
      modify fun s =>
        { s with
          args := start.args, readLine := start.readLine, loopDepth := start.loopDepth
          functionDepth := start.functionDepth
          optionIndex := start.optionIndex, optionLetter := start.optionLetter }
      let depth := start.frames.length
      let extra := (← get).frames.length - depth
      for _ in List.range extra do leaveFrame
      Redirecting.restore saved
      return (← get).status

def trace : Nat → Option Nat → List Chars → Run Unit
  | 0, _, _ => overflow
  | fuel + 1, number, words => do
    let head ← expandedValue fuel "PS4".toList
    let _ ← writeTo number (head ++ Text.join [' '] words ++ ['\n'])

def execute : Nat → Mode → Plan → Run Int
  | 0, _, _ => overflow
  | fuel + 1, mode, p => do
    let s ← get
    match p.argv with
    | [] => return s.outputStatus
    | name :: args =>
      let meaning ←
        match p.meaning with
        | .missing => Lookup.find name p.functions p.path true
        | meaning => pure meaning
      match meaning with
      | .missing => return 127
      | .program index => do
        let begin : Run Int := Starting.replace host p.argv (p.path.getD s.searchPath) index
        if mode.last && !(← get).hasActions then begin
        else
          let work : Run Unit := do
            let _ ← begin
          Command.waitFor [← spawn id (conclude fuel work)]
      | .function body => callFunction fuel mode body args
      | .verb verb =>
        modify fun t => { t with speaker := some name }
        try
          let status ← carryOut fuel mode verb name args
          if ← flush then return status
          say (name ++ ": I/O error".toList)
          return (status.toNat ||| 1 : Nat)
        finally
          let _ ← flush
          modify fun t => { t with speaker := s.speaker }

def callFunction : Nat → Mode → Node → List Chars → Run Int
  | 0, _, _, _ => overflow
  | fuel + 1, mode, body, args => do
    let s ← get
    if s.functionDepth ≥ functionLimit then
      fail ("Maximum function recursion depth (".toList ++ Chars.ofNat functionLimit ++
        ") reached".toList)
    set { s with
      args, optionIndex := 1, optionLetter := none, loopDepth := 0
      functionDepth := s.functionDepth + 1 }
    try run fuel { tested := mode.tested } body
    finally
      modify fun t =>
        { t with
          args := s.args, optionIndex := s.optionIndex, optionLetter := s.optionLetter
          loopDepth := s.loopDepth, functionDepth := s.functionDepth }
      arrive
    return (← get).status

def readFrom : Nat → List Chars → Run Int
  | 0, _ => overflow
  | fuel + 1, args => do
    match ← Command.withoutOptions args with
    | [] => return 0
    | name :: _ =>
      let path ← findFile name
      let number ← Redirecting.openKept path
      modify fun s => { s with speaker := some path }
      try runFile fuel false (some number)
      finally Redirecting.letGo number

def carryOut : Nat → Mode → Verb → (name : Chars) → List Chars → Run Int
  | 0, _, _, _, _ => overflow
  | fuel + 1, mode, verb, name, args =>
    match verb with
    | .setAlias => Command.setAlias args
    | .background | .foreground => Command.resume args
    | .breakLoop => passLoops .break args
    | .continueLoop => passLoops .continue args
    | .changeDirectory => Command.cd args
    | .command => describeOne args
    | .echo => Command.echo args
    | .evaluate =>
      if args.isEmpty then return 0
      else runText fuel { tested := mode.tested } (Text.join [' '] args)
    | .exec => do
      match args with
      | [] => return 0
      | name :: _ =>
        let index := if name.contains '/' then none else some 0
        Starting.replace host args (← get).searchPath index
    | .exit => exit args
    | .exportOf => Command.mark "export".toList true false args
    | .fail => return 1
    | .getopts => Command.getopts args
    | .hash => hash args
    | .jobs => Command.jobs args
    | .kill => Command.kill args
    | .localOf => Command.makeAllLocal args
    | .nothing | .succeed => return 0
    | .print => Command.print args
    | .pwd => Command.pwd args
    | .read => Command.read args
    | .readonly => Command.mark "readonly".toList false true args
    | .returnFrom => leaveFunction args
    | .set => Command.set_ args
    | .shift => Command.shift args
    | .sourceFile => readFrom fuel args
    | .test => Command.test name args
    | .times => Command.times
    | .trap => Command.trap args
    | .type => describe args
    | .ulimit => Command.ulimit args
    | .umask => Command.umask args
    | .unalias => Command.unalias args
    | .unset => Command.unset args
    | .wait => Command.wait args

end

end
end PipelineShell.Script.Evaluation
