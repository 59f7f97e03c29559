import PipelineShell.Script.Evaluation

/-!
# The interpreter of scripts

A script is the argument of an option, the content of a file, or what stands on the standard input.
The variables of the environment whose names are names of variables become variables of the shell.
-/

namespace PipelineShell.Script.Interpreter

open Script.Shell Userland

def depth : Nat := 200000

def standardVariables : List (Chars × Option Chars) :=
  [("IFS", some " \t\n"), ("MAIL", none), ("MAILPATH", none),
    ("PATH", some (String.ofList Lookup.standardPath)), ("PS1", some "# "), ("PS2", some "> "),
    ("PS4", some "+ "), ("OPTIND", some "1")].map fun (n, v) => (n.toList, v.map String.toList)

def certainVariables : List Chars := ["IFS".toList, "OPTIND".toList]

/-- The path by which a shell shows its directory at first: what the environment says if that is
right. -/
def shownDirectory (call : Call) (fs : FileSystem) : Chars :=
  let here := fs.locate call.cwd [.char '.']
  let physical :=
    match here with
    | .ok place => Command.pathOf place
    | .error _ => Octets.ofText call.cwd
  match call.env.lookup "PWD".toList with
  | some t =>
    let isRight :=
      t.head? = some '/' &&
        match here, fs.locate call.cwd (Shell.path t) with
        | .ok a, .ok b => a = b
        | _, _ => false
    if isRight then t else physical
  | none => physical

def bindings (call : Call) (shown : Chars) : Variables :=
  let standard : Variables := standardVariables.map fun (n, v) => (n, { value := v, fixed := true })
  let vs := call.env.foldl (fun (vs : Variables) (n, v) =>
    if isName n then vs.set n (some v) true false else vs) standard
  let vs := certainVariables.foldl (fun (vs : Variables) n =>
    vs.set n ((standardVariables.lookup n).bind id) false false) vs
  let vs := vs.set "PPID".toList (some (Chars.ofNat call.parent)) false false
  vs.set "PWD".toList (some shown) true false

def start (call : Call) (m : Machine) : Shell :=
  let shown := shownDirectory call m.files
  { name := call.name, line := 0, machine := m, cwd := call.cwd, shown
    bindings := bindings call shown, descriptors := call.descriptors
    ignored := call.ignored, mask := call.mask, limits := call.limits
    root := call.process, self := call.process, parent := call.parent }

/-- The options of a call, the last first: whether there is a script among the arguments, and the
arguments behind the options. The number of arguments bounds the steps. -/
def options : Nat → (given : Bool) → List Chars → Run (Bool × List Chars)
  | 0, given, args => return (given, args)
  | fuel + 1, given, args => do
    let letters (on : Bool) (t : Chars) (rest : List Chars) : Run (Bool × List Chars) := do
      let others := t.filter fun c => !"cl".toList.contains c
      let rest ← Command.turnLetters on others rest
      options fuel (given || t.contains 'c') rest
    match args with
    | ['-'] :: rest | ['-', '-'] :: rest => return (given, rest)
    | ('-' :: t) :: rest => letters true t rest
    | ('+' :: t) :: rest => letters false t rest
    | args => return (given, args)

def runScript (host : Host) (args : List Chars) : Run Unit := do
  match (← get).files.locate (← get).cwd [.char '.'] with
  | .error e => say ("getcwd() failed: ".toList ++ e.wording)
  | .ok _ => pure ()
  let (given, args) ← options args.length.succ false args
  let _ ← flush
  if given && args.isEmpty then fail "-c requires an argument".toList
  if args.isEmpty then Command.turn 's' true
  let s ← get
  let asking := s.isOn 'i'
  if asking then say "can't access tty; job control turned off".toList
  let fromInput : Run Unit := do
    let _ ← Evaluation.runFile host depth asking none
  if given then
    let name := (args[1]?).getD s.name
    modify fun s => { s with name, args := args.drop 2 }
    let work : Run Unit := do
      let _ ← Evaluation.runText host depth { last := !s.isOn 's' } (args.headD [])
    if asking then
      match ← attempt work with
      | none => if s.isOn 's' then fromInput
      | some .failed => fromInput
      | some stop => throw stop
    else
      work
      if s.isOn 's' then fromInput
  else if s.isOn 's' then
    modify fun s => { s with args }
    fromInput
  else
    let name := args.headD []
    let number ← Redirecting.openKept name
    modify fun s => { s with name, args := args.drop 1 }
    let _ ← Evaluation.runFile host depth asking (some number)

def interpreter (host : Host) : Utility := fun call m =>
  Evaluation.conclude host (depth + 1) (runScript host call.args) (start call m) fun status s =>
    .ended (status.toOption.getD 0) s.machine

end PipelineShell.Script.Interpreter
