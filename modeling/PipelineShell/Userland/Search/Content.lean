import PipelineShell.Userland.Search.Progress

/-!
# Searching an open file

Reads an open file in blocks and passes on its lines. A NUL byte makes it binary.
-/

namespace PipelineShell.Userland.Search

/-- What a search is about, apart from the files. -/
structure Setting where
  request : Request
  matcher : Matcher
  colours : Option Colours
  idle : Bool

def Setting.naming (s : Setting) : Option Bool :=
  if s.request.quiet || s.idle then none else s.request.naming

def Setting.stops (s : Setting) : Bool := s.request.quiet || s.idle || s.naming.isSome

def Setting.counts (s : Setting) : Bool := s.request.counting && !s.stops

def Setting.writes (s : Setting) : Bool := !s.counts && !s.stops

/-- What is known of all files so far. -/
structure Total where
  found : Bool := false
  failed : Bool := false
  begun : Bool := false

def put (c : Call) (s : Setting) (data : Bytes) : Work Unit := do
  Work.failOn c 2 "write error".toList (← Work.tryPrint c data)
  if s.request.lineBuffered then Work.failOn c 2 "write error".toList (← Work.flush c)

def complain (c : Call) (k : Request) (t : Total) (message : Chars) : Work Total := do
  if !k.silent then Work.say c (c.complaint message).2
  return { t with failed := true }

def readSize : Nat := 98304

/-- Parts bytes into lines, given the bytes of the line that is open in reverse; the lines that are
complete come out, the last first, and the open line. -/
def splitOnto (ending : UInt8) : (done : List Bytes) → (line : Bytes) → Bytes → List Bytes × Bytes
  | done, line, [] => (done, line)
  | done, line, b :: rest =>
    if b = ending then splitOnto ending (line.reverse :: done) [] rest
    else splitOnto ending done (b :: line) rest

/-- What is known in the middle of an open file. -/
structure Reader where
  progress : Progress
  line : Bytes := []
  number : Nat := 1
  offset : Nat := 0
  taken : Nat := 0
  atEnd : Bool := false
  skipped : Bool := false
  fault : Option SystemError := none

def Reader.numbered (wide : Bool) (r : Reader) (lines : List Bytes) : List Line × Reader :=
  let (done, number, offset) := lines.foldl (fun (done, number, offset) line =>
    let size := line.length
    ((⟨number, offset, size, Regex.symbols wide line⟩ : Line) :: done, number + 1,
      offset + size + 1)) (([] : List Line), r.number, r.offset)
  (done.reverse, { r with number, offset })

def Reader.scan (s : Setting) (p : Page) (r : Reader) (data : Bytes) : Reader :=
  let k := s.request
  let isNew : Bool :=
    r.progress.textual.isNone && k.binary ≠ .text && k.ending ≠ 0 && data.contains 0
  if isNew && k.binary = .skip then { r with skipped := true }
  else
    let progress :=
      if !isNew then r.progress
      else
        { r.progress with
          textual := some r.progress.selected
          quiet := true, stops := r.progress.stops || !s.counts }
    let data :=
      if progress.textual.isSome then data.map fun b => if b = 0 then k.ending else b else data
    let (lines, line) := splitOnto k.ending [] r.line data
    let (lines, r) := r.numbered s.matcher.wide lines.reverse
    let progress := if lines.isEmpty then progress else progress.scanBlock p lines
    { r with progress := progress, line, taken := r.taken + data.length }

def Reader.flush (c : Call) (s : Setting) (r : Reader) : Work Reader := do
  put c s r.progress.out.reverse.flatten
  return { r with progress := { r.progress with out := [] } }

def search (c : Call) (s : Setting) (p : Page) (number : Nat) (t : Total) : Work Reader := do
  let k := s.request
  let start : Progress :=
    { begun := t.begun, left := k.limit, quiet := !s.writes, stops := s.stops }
  let r ← Work.loop (fun (r : Reader) => do
    match ← Work.read number readSize with
    | .error e => return (false, { r with fault := some e })
    | .ok [] => return (false, { r with atEnd := true })
    | .ok data => do
      let r := r.scan s p data
      if k.quiet && r.progress.selected > 0 then Work.exit c 0
      let r ← r.flush c s
      let goesOn : Bool := !r.skipped && !r.progress.isDone
      return (goesOn, { r with progress := if goesOn then r.progress.leave p else r.progress }))
      { progress := start }
  if r.atEnd && !r.line.isEmpty then
    let (lines, r) := r.numbered s.matcher.wide [r.line.reverse]
    let r := { r with progress := r.progress.scanBlock p lines, line := [] }
    if k.quiet && r.progress.selected > 0 then Work.exit c 0
    r.flush c s
  else return r

def drain (number : Nat) : Work Unit := do
  match ← Work.task (Task.ask (·.handle? number)) with
  | some handle =>
    Work.task <| Task.change fun m =>
      m.moveTo number (max handle.position (m.contentAt handle.place).size)
  | none =>
    let _ ← Work.forBlocks number (fun _ _ => return ()) ()

def settle (number : Nat) (start : Option Handle) (r : Reader) : Work Unit := do
  if r.progress.isFull then
    match start with
    | some handle =>
      let reached := min r.taken r.progress.reached
      if reached ≠ r.taken then
        Work.task (Task.change (·.moveTo number (handle.position + reached)))
    | none => return
  else if !r.atEnd then drain number

def report (c : Call) (s : Setting) (named isStandard : Bool) (label : Chars) (number : Nat)
    (t : Total) : Work Total := do
  let k := s.request
  let start ← Work.task (Task.ask (·.handle? number))
  let size ← Work.task <| Task.ask fun m =>
    (start.map fun handle => (m.contentAt handle.place).size).getD greatestNumber
  let widest := if k.numbers then min greatestNumber (size + 1) else size
  let p : Page :=
    { request := k, matcher := s.matcher, name := if named then some label else none
      width := if k.aligned then (Chars.ofNat widest).length else 0, colours := s.colours }
  let r ← search c s p number t
  let t ←
    match r.fault with
    | some e => complain c k t (label ++ ": ".toList ++ e.wording)
    | none => pure t
  match r.progress.trouble with
  | some e => Work.fail c 2 (label ++ ": ".toList ++ e)
  | none => pure ()
  let count := if r.skipped then 0 else r.progress.selected
  let isMixed : Bool :=
    r.progress.hidden || r.progress.textual.any (· < r.progress.selected)
  if s.writes && isMixed && k.binary = .notice then
    Work.say c (c.complaint (label ++ ": binary file matches".toList)).2
  let t := { t with found := t.found || count > 0, begun := r.progress.begun }
  if s.counts then
    let name := if named then p.nameWith label ':' else []
    put c s (Octets.toBytes (name ++ Chars.ofNat count ++ ['\n']))
  match s.naming with
  | some matching =>
    if matching = decide (count > 0) then
      let stop := if k.nulAfterName then '\x00' else '\n'
      put c s (Octets.toBytes (p.setOff (·.name) label ++ [stop]))
    return t
  | none =>
    if isStandard then settle number start r
    return t

end PipelineShell.Userland.Search
