import PipelineShell.Userland.Search.Content
import PipelineShell.Userland.Search.Explained
import PipelineShell.Userland.Search.Target

/-!
# `grep`

Selects the lines of its operands that match, and writes them, their parts, their number or the
names of their files.
-/

namespace PipelineShell.Userland.Search

def Request.isFutile (k : Request) (patterns : List Pattern) : Bool :=
  k.naming ≠ some false &&
    (k.limit = some 0 || (patterns.isEmpty && !k.invert) ||
      (!patterns.isEmpty && patterns.all (·.text.isEmpty) && k.invert && !k.wholeLines &&
        !k.wholeWords))

def isOutput (c : Call) (k : Request) (s : Setting) (m : Machine) (number : Nat) : Bool :=
  s.writes && k.limit.getD 2 > 1 &&
    match m.handle? number, (c.descriptors.lookup 1).bind m.handle? with
    | some source, some sink => source.place = sink.place
    | _, _ => false

def searchTarget (c : Call) (s : Setting) (named : Bool) (t : Total) : Target → Work Total
  | .loop path =>  do
    if !s.request.silent then
      Work.say c (c.complaint ("warning: ".toList ++ path ++ ": recursive directory loop".toList)).2
    return t
  | target => do
    let (label, operand) : Chars × Chars :=
      match target with
      | .file path => (path, if path = ['-'] then "./-".toList else path)
      | _ => (s.request.label, ['-'])
    match ← Work.openOperand c operand with
    | .error e => complain c s.request t (label ++ ": ".toList ++ e.wording)
    | .ok number =>
      if ← Work.task (Task.ask (isOutput c s.request s · number)) then
        complain c s.request t (label ++ ": input file is also the output".toList)
      else report c s named (target = .standard) label number t

def searchAll (c : Call) (s : Setting) (named : Bool) : List Target → Total → Work Total
  | [], t => return t
  | target :: rest, t => do
    let t ← searchTarget c s named t target
    searchAll c s named rest t

def chooseColours (c : Call) (k : Request) : Work (Option Colours) := do
  if !k.coloured then return none
  let numbers := (c.env.lookup "GREP_COLOR".toList).filter fun v => !v.isEmpty && Colours.isNumbers v
  let (colours, isOld) := Colours.ofSettings numbers (c.env.lookup "GREP_COLORS".toList)
  match numbers, isOld with
  | some v, true =>
    Work.say c (c.complaint ("warning: GREP_COLOR='".toList ++ v ++
      "' is deprecated; use GREP_COLORS='mt=".toList ++ v ++ ['\''])).2
  | _, _ => pure ()
  return some colours

def searchFor (c : Call) (k : Request) (patterns : List Pattern) (operands : List Chars) :
    Work Unit := do
  if k.isFutile patterns then
    Work.setStatus 1
    return
  let colours ← chooseColours c k
  match Matcher.compile c k patterns with
  | .error messages => do
    for message in messages do
      Work.say c (c.complaint message).2
    Work.setStatus 2
  | .ok (matcher, warnings) => do
    for warning in warnings do
      Work.say c (c.complaint warning).2
    match matcher.accepts [] with
    | .error e => Work.fail c 2 ("(standard input): ".toList ++ e)
    | .ok _ => pure ()
    let k := if k.negative && k.invert then { k with limit := some 0 } else k
    let idle ← Work.task <| Task.ask fun m =>
      !k.quiet && decide ((c.descriptors.lookup 1).bind m.open? = some (.device .null))
    let s : Setting := { request := k, matcher, colours, idle }
    let (targets, named) ← Work.task <| Task.ask fun m =>
      (k.targets c m.files operands, k.isNamed c m.files operands)
    let t ← searchAll c s named targets {}
    Work.setStatus (if t.failed then 2 else if t.found then 0 else 1)

def work (c : Call) : Work Unit := do
  let (all, fault) := known.read c.isOrdered (c.args.length + 1) c.args
  let args := Arguments.ofList known c.name all fault
  let k ← Request.addAll {} c args.options
  match args.ending with
  | some (.fault message) => Fault.fail c ⟨message, true, 2⟩
  | some (.notice message) => Work.print c (Octets.toBytes message)
  | none =>
    if k.versions then Work.print c (Octets.toBytes version)
    else if k.helps then Work.print c (Octets.toBytes (Explained.text c.name))
    else
      match k.patterns, args.operands with
      | some patterns, operands => searchFor c k patterns operands
      | none, first :: operands =>
        let k := k.addPatterns ((Text.splitOn '\n' first).map (⟨·, none⟩))
        searchFor c k (k.patterns.getD []) operands
      | none, [] => do
        Work.deliver c (usage c)
        Work.setStatus 2

def manner : Userland.Manner where
  status := 2

end Search

def grep : Utility := Search.manner.utility Search.work

end PipelineShell.Userland
