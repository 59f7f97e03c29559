import PipelineShell.Userland.Search.Page

/-!
# Going through lines

Selected lines with the context around them, each line once.
-/

namespace PipelineShell.Userland.Search

/-- What is known while lines are gone through. -/
structure Progress where
  out : List Bytes := []
  passed : List Line := []
  adjacent : Bool := false
  pending : Nat := 0
  begun : Bool
  left : Option Nat
  selected : Nat := 0
  reached : Nat := 0
  quiet : Bool
  stops : Bool
  hidden : Bool := false
  textual : Option Nat := none
  trouble : Option Chars := none

namespace Progress

def isFull (s : Progress) : Bool := s.left = some 0

def write (p : Page) (sign : Char) (line : Line) (s : Progress) : Bool × Progress :=
  match p.write sign line with
  | .error e => (false, { s with trouble := s.trouble <|> some e })
  | .ok (data, true) => (true, { s with out := data :: s.out, passed := [], adjacent := true })
  | .ok (data, false) =>
    (false, { s with out := data :: s.out, passed := line :: s.passed, hidden := true })

def writeOldest (p : Page) : List Line → Progress → Progress
  | [], s => s
  | line :: rest, s =>
    if s.pending = 0 then { s with passed := (line :: rest).reverse ++ s.passed }
    else
      match s.write p '-' line with
      | (true, s) => writeOldest p rest { s with pending := s.pending - 1 }
      | (false, s) => { s with pending := 0, passed := rest.reverse ++ s.passed }

def writePending (p : Page) (s : Progress) : Progress :=
  if s.pending = 0 then s
  else writeOldest p s.passed.reverse { s with passed := [], adjacent := true }

def lead (p : Page) (s : Progress) : Progress :=
  let s := s.writePending p
  let k := p.request
  let near := s.passed.take ((k.before <|> k.around).getD 0)
  let beyond := s.passed.drop near.length
  let isApart : Bool := !beyond.isEmpty || !s.adjacent
  let isAround : Bool := (k.after <|> k.before <|> k.around).isSome
  let s := if isAround && s.begun && isApart then { s with out := p.gap :: s.out } else s
  near.reverse.foldl (fun s line => (s.write p '-' line).2) { s with passed := beyond }

/-- Selects a line; `joined` tells that the line before it was selected as one of the lines that do
not match. -/
def select (p : Page) (joined : Bool) (line : Line) (s : Progress) : Progress :=
  let s :=
    if s.quiet then { s with passed := line :: s.passed, pending := 0 }
    else
      let s := if joined then s else s.lead p
      { (s.write p ':' line).2 with pending := (p.request.after <|> p.request.around).getD 0 }
  { s with
    begun := true, left := s.left.map (· - 1), selected := s.selected + 1
    reached := line.offset + line.size + 1 }

def scan (p : Page) : (joined : Bool) → List Line → Progress → Progress
  | _, [], s => s.writePending p
  | joined, line :: rest, s =>
    if s.trouble.isSome then s
    else
      match p.matcher.accepts line.text with
      | .error e => { s with trouble := some e }
      | .ok found =>
        if found = p.request.invert then
          scan p false rest { s with passed := line :: s.passed }
        else
          let s := s.select p joined line
          if s.isFull || s.stops then
            { s with passed := rest.reverse ++ s.passed }.writePending p
          else scan p p.request.invert rest s

def scanBlock (p : Page) (lines : List Line) (s : Progress) : Progress :=
  if s.isFull then { s with passed := lines.reverse ++ s.passed }.writePending p
  else s.scan p false lines

def isDone (s : Progress) : Bool :=
  s.trouble.isSome || (s.isFull && s.pending = 0) || (s.stops && s.textual.getD 0 < s.selected)

def leave (p : Page) (s : Progress) : Progress :=
  let near := s.passed.take ((p.request.before <|> p.request.around).getD 0)
  { s with passed := near, adjacent := s.adjacent && near.length = s.passed.length }

end Progress
end PipelineShell.Userland.Search
