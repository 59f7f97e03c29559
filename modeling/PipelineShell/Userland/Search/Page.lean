import PipelineShell.Userland.Search.Matcher

/-!
# How lines are written

The prefix of a line (file, number, offset), then the line or its matching parts.
-/

namespace PipelineShell.Userland.Search

/-- A line with its number and its offset. -/
structure Line where
  number : Nat
  offset : Nat
  size : Nat
  text : Chars

/-- How lines are written. -/
structure Page where
  request : Request
  matcher : Matcher
  name : Option Chars
  width : Nat := 0
  colours : Option Colours := none

namespace Page

def setOff (p : Page) (numbers : Colours → Chars) (t : Chars) : Chars :=
  match p.colours with
  | none => t
  | some c => c.start (numbers c) ++ t ++ c.stop (numbers c)

def sign (p : Page) (t : Char) : Chars := p.setOff (·.separator) [t]

def nameWith (p : Page) (name : Chars) (t : Char) : Chars :=
  p.setOff (·.name) name ++ (if p.request.nulAfterName then ['\x00'] else p.sign t)

def padded (p : Page) (n : Nat) : Chars :=
  let digits := Chars.ofNat n
  List.replicate (p.width - digits.length) ' ' ++ digits

def heading (p : Page) (t : Char) (number offset : Nat) (isEmpty : Bool) : Bytes :=
  let name := (p.name.map (p.nameWith · t)).getD []
  let number :=
    if p.request.numbers then p.setOff (·.lineNumber) (p.padded number) ++ p.sign t else []
  let offset :=
    if p.request.offsets then p.setOff (·.byteNumber) (p.padded offset) ++ p.sign t else []
  let head := name ++ number ++ offset
  Octets.toBytes (if p.request.aligned && !head.isEmpty && !isEmpty then head ++ ['\t'] else head)

def admits (p : Page) (t : Chars) : Bool :=
  !p.matcher.wide || p.request.binary = .text || t.all Regex.isDecoded

def bytes (p : Page) (t : Chars) : Bytes := Regex.bytes p.matcher.wide t

def mark (p : Page) (t : Colours → Chars) : Bytes :=
  match p.colours with
  | none => []
  | some c => Octets.toBytes (t c)

/-- The parts of a line on lines of their own, and whether all may be written. The place is that of
the rest of the line, and its offset is given. -/
def writeParts (p : Page) (t : Char) (number : Nat) (numbers : Colours → Chars) :
    (place offset : Nat) → Chars → List (Nat × Nat) → Bytes × Bool
  | _, _, _, [] => ([], true)
  | place, offset, rest, (b, e) :: more =>
    let skipped := rest.take (b - place)
    let rest := rest.drop (b - place)
    let part := rest.take (e - b)
    if !p.admits part then ([], false)
    else
      let offset := offset + (p.bytes skipped).length
      let content := p.bytes part ++ (if part.length < e - b then [p.request.ending] else [])
      let line :=
        p.heading t number offset false ++ p.mark (fun c => c.start (numbers c)) ++ content ++
          p.mark (fun c => c.stop (numbers c)) ++ [p.request.ending]
      let (written, all) :=
        p.writeParts t number numbers e (offset + content.length) (rest.drop (e - b)) more
      (line ++ written, all)

/-- A line in which parts are set off. The place is that of the rest of the line; `toEnd` tells
whether the last part has had the end of the line in it. -/
def writeMarked (p : Page) (c : Colours) (ofMatch ofLine : Chars) : (place : Nat) →
    (toEnd : Bool) → Chars → List (Nat × Nat) → Bytes
  | _, true, _, [] => []
  | _, false, rest, [] =>
    let tail := if rest.getLast? = some '\r' then rest.dropLast else rest
    let behind := rest.drop tail.length
    let tail :=
      if tail.isEmpty || ofLine.isEmpty then p.bytes tail
      else Octets.toBytes (c.start ofLine) ++ p.bytes tail ++ Octets.toBytes (c.stop ofLine)
    tail ++ p.bytes behind ++ [p.request.ending]
  | place, _, rest, (b, e) :: more =>
    let skipped := rest.take (b - place)
    let rest := rest.drop (b - place)
    let part := rest.take (e - b)
    let toEnd : Bool := part.length < e - b
    Octets.toBytes (c.start ofLine) ++ p.bytes skipped ++ Octets.toBytes (c.start ofMatch) ++
      p.bytes part ++ (if toEnd then [p.request.ending] else []) ++
      Octets.toBytes (c.stop ofMatch) ++
      p.writeMarked c ofMatch ofLine e toEnd (rest.drop (e - b)) more

/-- What is written of a line, and whether all of it may be written. The sign tells whether the line
is selected. -/
def write (p : Page) (t : Char) (line : Line) : Except Chars (Bytes × Bool) :=
  let selected : Bool := t = ':'
  let matching : Bool := selected != p.request.invert
  let ofMatch (c : Colours) : Chars := if selected then c.selectedMatch else c.contextMatch
  if p.request.onlyParts then
    if !matching then .ok ([], true)
    else
      (p.matcher.parts line.text).map
        (p.writeParts (if p.request.invert then '-' else ':') line.number ofMatch 0 line.offset
          line.text)
  else if !p.admits line.text then .ok ([], false)
  else
    let head := p.heading t line.number line.offset line.text.isEmpty
    match p.colours with
    | none => .ok (head ++ (p.bytes line.text ++ [p.request.ending]), true)
    | some c =>
      let ofLine :=
        if selected != (p.request.invert && c.reverses) then c.selectedLine else c.contextLine
      let parts : Except Chars (List (Nat × Nat)) :=
        if matching && !(ofMatch c).isEmpty then p.matcher.parts line.text else .ok []
      parts.map fun parts =>
        (head ++ p.writeMarked c (ofMatch c) ofLine 0 false line.text parts, true)

def gap (p : Page) : Bytes :=
  match p.request.separator with
  | none => []
  | some s => Octets.toBytes (p.setOff (·.separator) s ++ ['\n'])

end Page
end PipelineShell.Userland.Search
