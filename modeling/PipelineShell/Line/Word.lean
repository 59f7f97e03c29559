import PipelineShell.Text.Basic

/-!
# Words of a line

`tokenize`, as a machine that takes one character at a time. A word keeps whether a quote or an
escape stood in it.
-/

namespace PipelineShell

/-- A word of a line: its text, and whether quotes or escapes were used in writing it. -/
structure Word where
  text : Text
  quoted : Bool
  deriving DecidableEq, Repr

/-- The two quotation marks of the line language. -/
inductive QuoteMark
  | single
  | double
  deriving DecidableEq, Repr

def QuoteMark.char : QuoteMark → Rune
  | .single => '\''
  | .double => '"'

namespace Word

def plain (text : Text) : Word := ⟨text, false⟩

/-- Where the scanner stands between two characters. -/
inductive Mode
  | bare
  | bareEscape
  | single
  | double
  | doubleEscape
  deriving DecidableEq, Repr

def Mode.openMark? : Mode → Option QuoteMark
  | .bare | .bareEscape => none
  | .single => some .single
  | .double | .doubleEscape => some .double

/-- What the scanner has read: the finished words and the characters of the open one, both in
reverse, and whether the open word has seen a quote or an escape. -/
structure Scan where
  words : List Word := []
  reversed : Text := []
  quoted : Bool := false
  mode : Mode := .bare
  deriving DecidableEq, Repr

namespace Scan

def push (s : Scan) (c : Rune) : Scan := { s with reversed := c :: s.reversed }

def close (s : Scan) : Scan :=
  if s.reversed.isEmpty then { s with quoted := false }
  else
    { s with words := ⟨s.reversed.reverse, s.quoted⟩ :: s.words, reversed := [], quoted := false }

def isEscapable (c : Rune) : Bool := c = '"' || c = '\\' || c = '$' || c = '`'

def step (s : Scan) (c : Rune) : Scan :=
  match s.mode with
  | .single => if c = '\'' then { s with mode := .bare } else s.push c
  | .double =>
    if c = '"' then { s with mode := .bare }
    else if c = '\\' then { s with mode := .doubleEscape }
    else s.push c
  | .doubleEscape =>
    let s := { s with mode := .double }
    if isEscapable c then s.push c else (s.push '\\').push c
  | .bareEscape => { s.push c with quoted := true, mode := .bare }
  | .bare =>
    if c = '\'' then { s with mode := .single, quoted := true }
    else if c = '"' then { s with mode := .double, quoted := true }
    else if c = ' ' then s.close
    else if c = '\\' then { s with mode := .bareEscape }
    else s.push c

/-- The words when the line ends here, or the mark that was left open. -/
def finish (s : Scan) : Except QuoteMark (List Word) :=
  match s.mode.openMark? with
  | some mark => .error mark
  | none => .ok s.close.words.reverse

end Scan

/-- `tokenize`: the words of a line, or the quote that is left open. -/
def scan (line : Text) : Except QuoteMark (List Word) :=
  (line.foldl Scan.step {}).finish

/-- Reading a line in two parts is reading the second from where the first has led. -/
theorem scan_append (a b : Text) :
    scan (a ++ b) = (b.foldl Scan.step (a.foldl Scan.step {})).finish := by
  simp [scan]

example : scan "a  'b c'd \\|".runes =
    .ok [plain "a".runes, ⟨"b cd".runes, true⟩, ⟨"|".runes, true⟩] := by rfl
example : scan "a \"b".runes = .error .double := by rfl

end Word
end PipelineShell
