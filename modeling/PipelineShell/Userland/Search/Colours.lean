import PipelineShell.Text.Chars

/-!
# Colours

The terminal codes around parts of a line, read from pairs of names and numbers.
-/

namespace PipelineShell.Userland.Search

/-- How the parts of what is written are set off, each by numbers; those of an empty row are not. -/
structure Colours where
  selectedMatch : Chars := "01;31".toList
  contextMatch : Chars := "01;31".toList
  name : Chars := "35".toList
  lineNumber : Chars := "32".toList
  byteNumber : Chars := "32".toList
  separator : Chars := "36".toList
  selectedLine : Chars := []
  contextLine : Chars := []
  reverses : Bool := false
  clears : Bool := true
  deriving DecidableEq, Repr

namespace Colours

def clearing (c : Colours) : Chars := if c.clears then "\x1b[K".toList else []

def start (c : Colours) (numbers : Chars) : Chars :=
  if numbers.isEmpty then [] else "\x1b[".toList ++ numbers ++ 'm' :: c.clearing

def stop (c : Colours) (numbers : Chars) : Chars :=
  if numbers.isEmpty then [] else "\x1b[m".toList ++ c.clearing

def isNumbers (t : Chars) : Bool := t.all fun c => c.isDigit || c = ';'

def set (c : Colours) (name : Chars) (value : Option Chars) : Colours :=
  match String.ofList name, value with
  | "mt", some v => { c with selectedMatch := v, contextMatch := v }
  | "mt", none => { c with contextMatch := c.selectedMatch }
  | "ms", some v => { c with selectedMatch := v }
  | "mc", some v => { c with contextMatch := v }
  | "fn", some v => { c with name := v }
  | "ln", some v => { c with lineNumber := v }
  | "bn", some v => { c with byteNumber := v }
  | "se", some v => { c with separator := v }
  | "sl", some v => { c with selectedLine := v }
  | "cx", some v => { c with contextLine := v }
  | "rv", _ => { c with reverses := true }
  | "ne", _ => { c with clears := false }
  | _, _ => c

def setAll (c : Colours) : List Chars → Colours
  | [] => c
  | pair :: rest =>
    let name := pair.takeWhile (· ≠ '=')
    match pair.drop name.length with
    | [] => (c.set name none).setAll rest
    | _ :: value =>
      if name.isEmpty || !isNumbers value then c else (c.set name (some value)).setAll rest

def placeholder : Chars := ['?']

/-- The colours that two settings ask for: the numbers of matching parts, and pairs. Whether the
first has an effect comes with them. -/
def ofSettings (numbers pairs : Option Chars) : Colours × Bool :=
  let pairs := Text.splitOn ':' (pairs.getD [])
  match numbers with
  | none => (setAll {} pairs, false)
  | some v =>
    let c := setAll { selectedMatch := placeholder, contextMatch := placeholder } pairs
    let fill (t : Chars) : Chars := if t = placeholder then v else t
    ({ c with selectedMatch := fill c.selectedMatch, contextMatch := fill c.contextMatch },
      c.selectedMatch = placeholder || c.contextMatch = placeholder)

end Colours
end PipelineShell.Userland.Search
