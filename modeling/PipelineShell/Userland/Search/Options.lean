import PipelineShell.Userland.Options
import PipelineShell.Userland.Search.Colours

/-!
# Options of `grep`

Patterns come from options, files or the first operand, one on each line.
-/

namespace PipelineShell.Userland.Search

/-- How files are treated that do not hold text. -/
inductive Binary
  | notice
  | text
  | skip
  deriving DecidableEq

/-- What becomes of directories. -/
inductive Directories
  | read
  | skip
  | recurse
  deriving DecidableEq

/-- In which way patterns are written. -/
inductive Way
  | basic
  | extended
  | fixed
  | perl
  deriving DecidableEq

/-- A pattern, and the file and line that it comes from, if it comes from a file. -/
structure Pattern where
  text : Chars
  origin : Option (Chars × Nat) := none
  deriving DecidableEq

/-- What is to be done. -/
structure Request where
  way : Option Way := none
  patterns : Option (List Pattern) := none
  fold : Bool := false
  invert : Bool := false
  wholeLines : Bool := false
  wholeWords : Bool := false
  counting : Bool := false
  /-- Whether only the names of files are written: of those with a selected line, or of the others.
  -/
  naming : Option Bool := none
  quiet : Bool := false
  silent : Bool := false
  onlyParts : Bool := false
  limit : Option Nat := none
  negative : Bool := false
  numbers : Bool := false
  offsets : Bool := false
  aligned : Bool := false
  named : Option Bool := none
  label : Chars := "(standard input)".toList
  nulAfterName : Bool := false
  ending : UInt8 := 10
  after : Option Nat := none
  before : Option Nat := none
  around : Option Nat := none
  separator : Option Chars := some ['-', '-']
  binary : Binary := .notice
  directories : Directories := .read
  follows : Bool := false
  skipsDevices : Bool := false
  /-- Patterns of names of files, each telling whether they are searched, and of directories that
  are not gone through. -/
  filters : List (Bool × Chars) := []
  avoided : List Chars := []
  coloured : Bool := false
  lineBuffered : Bool := false
  helps : Bool := false
  versions : Bool := false

/-- What is wrong with a call: its message and the status; advice follows if it is wanted. -/
structure Fault where
  message : Chars
  advice : Bool := false
  status : Int := 2

/-- The letters that stand for words that no letter stands for. -/
inductive Long
  | binaryFiles
  | colour
  | exclude
  | excludeFrom
  | excludeDirectory
  | groupSeparator
  | help
  | included
  | heedCase
  | label
  | lineBuffered
  deriving DecidableEq

def Long.letter (w : Long) : Char := Char.ofNat (128 + w.ctorIdx)

def Long.all : List (Char × Long) :=
  [.binaryFiles, .colour, .exclude, .excludeFrom, .excludeDirectory, .groupSeparator, .help,
    .included, .heedCase, .label, .lineBuffered].map fun (w : Long) => (w.letter, w)

def known : Known where
  letters := "0123456789".toList.map (·, .number) ++
    "EFGHILPTUVabchilnoqRrsuvwxyZz".toList.map (·, .none) ++ "ABCDXdefm".toList.map (·, .required)
  words :=
    [("basic-regexp", .none, 'G'), ("extended-regexp", .none, 'E'), ("fixed-regexp", .none, 'F'),
      ("fixed-strings", .none, 'F'), ("perl-regexp", .none, 'P'),
      ("after-context", .required, 'A'), ("before-context", .required, 'B'),
      ("binary-files", .required, Long.binaryFiles.letter), ("binary", .none, 'U'),
      ("byte-offset", .none, 'b'), ("context", .required, 'C'),
      ("color", .optional, Long.colour.letter), ("colour", .optional, Long.colour.letter),
      ("count", .none, 'c'), ("devices", .required, 'D'), ("directories", .required, 'd'),
      ("exclude", .required, Long.exclude.letter),
      ("exclude-from", .required, Long.excludeFrom.letter),
      ("exclude-dir", .required, Long.excludeDirectory.letter), ("file", .required, 'f'),
      ("files-with-matches", .none, 'l'), ("files-without-match", .none, 'L'),
      ("group-separator", .required, Long.groupSeparator.letter),
      ("help", .none, Long.help.letter), ("include", .required, Long.included.letter),
      ("ignore-case", .none, 'i'), ("no-ignore-case", .none, Long.heedCase.letter),
      ("initial-tab", .none, 'T'), ("label", .required, Long.label.letter),
      ("line-buffered", .none, Long.lineBuffered.letter), ("line-number", .none, 'n'),
      ("line-regexp", .none, 'x'), ("max-count", .required, 'm'), ("no-filename", .none, 'h'),
      ("no-group-separator", .none, Long.groupSeparator.letter), ("no-messages", .none, 's'),
      ("null", .none, 'Z'), ("null-data", .none, 'z'), ("only-matching", .none, 'o'),
      ("quiet", .none, 'q'), ("recursive", .none, 'r'), ("dereference-recursive", .none, 'R'),
      ("regexp", .required, 'e'), ("invert-match", .none, 'v'), ("silent", .none, 'q'),
      ("text", .none, 'a'), ("unix-byte-offsets", .none, 'u'), ("version", .none, 'V'),
      ("with-filename", .none, 'H'), ("word-regexp", .none, 'w')].map fun (w, arity, c) =>
        (w.toList, arity, c)
  name := "grep"
  uses := ["[OPTION]... PATTERNS [FILE]..."]

def usage (c : Call) : List (Output × Bytes) :=
  [c.remark (known.usage c.name).dropLast, c.advice]

def Fault.fail {α : Type} (c : Call) (f : Fault) : Work α := do
  Work.deliver c (c.complaint f.message :: (if f.advice then usage c else []))
  Work.exit c f.status

def greatestNumber : Nat := 0x7fffffffffffffff

def number? (t : Chars) : Option Int :=
  let t := t.dropWhile fun c => c = ' ' || ('\t' ≤ c && c ≤ '\r')
  let (negative, t) : Bool × Chars :=
    match t with
    | '-' :: rest => (true, rest)
    | '+' :: rest => (false, rest)
    | t => (false, t)
  (natural? t).map fun n => if negative then -(n : Int) else min n greatestNumber

def digitLimit : Nat := 21

def lineCount (t : Chars) : Except Fault Nat :=
  match number? t with
  | some n => if n < 0 then .error ⟨t ++ ": invalid context length argument".toList, false, 2⟩
    else .ok n.toNat
  | none => .error ⟨t ++ ": invalid context length argument".toList, false, 2⟩

def lineDigits (t : Chars) : Except Fault Nat :=
  let t := if t.all (· = '0') then ['0'] else t.dropWhile (· = '0')
  lineCount (if t.length > digitLimit then t.take digitLimit ++ "...".toList else t)

def Request.addPatterns (k : Request) (more : List Pattern) : Request :=
  let all := more.foldl (fun (all : List Pattern) p =>
    if all.any (·.text = p.text) then all else all ++ [p]) (k.patterns.getD [])
  { k with patterns := some all }

def linesOfText (t : Chars) : List Chars :=
  if t.isEmpty then [] else Text.splitOn '\n' (if t.getLast? = some '\n' then t.dropLast else t)

def patternsOfFile (name content : Chars) : List Pattern :=
  (linesOfText content).zipIdx.map fun (text, i) => ⟨text, some (name, i + 1)⟩

def namesOfFile (content : Chars) : List Chars :=
  (linesOfText content).filterMap fun line =>
    let line := (line.reverse.dropWhile fun c => c = ' ' || ('\t' ≤ c && c ≤ '\r')).reverse
    if line.isEmpty then none else some line

def Request.choose (k : Request) (way : Way) : Except Fault Request :=
  if k.way.isSome && k.way ≠ some way then .error ⟨"conflicting matchers specified".toList, false, 2⟩
  else .ok { k with way := some way }

def ways : List (Chars × Way) :=
  [("grep".toList, .basic), ("egrep".toList, .extended), ("fgrep".toList, .fixed),
    ("awk".toList, .extended), ("gawk".toList, .extended), ("posixawk".toList, .extended),
    ("perl".toList, .perl)]

def treatments : List (Chars × Directories) :=
  [("read".toList, .read), ("recurse".toList, .recurse), ("skip".toList, .skip)]

def binaries : List (Chars × Binary) :=
  [("binary".toList, .notice), ("text".toList, .text), ("without-match".toList, .skip)]

def Request.addLong (k : Request) (value : Option Chars) : Long → Except Fault Request
  | .binaryFiles =>
    match binaries.lookup (value.getD []) with
    | some binary => .ok { k with binary }
    | none => .error ⟨"unknown binary-files type".toList, false, 2⟩
  | .colour =>
    let isOne (words : List String) : Bool := words.any (value = some ·.toList)
    if isOne ["always", "yes", "force"] then .ok { k with coloured := true }
    else if value = none || isOne ["never", "no", "none", "auto", "tty", "if-tty"] then
      .ok { k with coloured := false }
    else .ok { k with helps := true }
  | .exclude => .ok { k with filters := k.filters ++ [(false, value.getD [])] }
  | .included => .ok { k with filters := k.filters ++ [(true, value.getD [])] }
  | .excludeDirectory => .ok { k with avoided := k.avoided ++ [value.getD []] }
  | .groupSeparator => .ok { k with separator := value }
  | .help => .ok { k with helps := true }
  | .heedCase => .ok { k with fold := false }
  | .label => .ok { k with label := value.getD [] }
  | .lineBuffered => .ok { k with lineBuffered := true }
  | .excludeFrom => .ok k

def Request.addValue (k : Request) (letter : Char) (t : Chars) : Except Fault Request :=
  match letter with
  | 'A' => (lineCount t).map fun n => { k with after := some n }
  | 'B' => (lineCount t).map fun n => { k with before := some n }
  | 'C' => (lineCount t).map fun n => { k with around := some n }
  | 'e' => .ok (k.addPatterns ((Text.splitOn '\n' t).map (⟨·, none⟩)))
  | 'm' =>
    match number? t with
    | some n => .ok { k with limit := if n < 0 then none else some n.toNat, negative := n < 0 }
    | none => .error ⟨"invalid max count".toList, false, 2⟩
  | 'd' =>
    match treatments.filter (t.isPrefixOf ·.1) with
    | [(_, directories)] => .ok { k with directories }
    | found =>
      let kind := if found.isEmpty then "invalid" else "ambiguous"
      .error ⟨kind.toList ++ " argument ".toList ++ Quoting.phrase t ++
        " for '--directories'\nValid arguments are:\n  - 'read'\n  - 'recurse'\n  - 'skip'".toList,
        true, 1⟩
  | 'D' =>
    if t = "read".toList then .ok { k with skipsDevices := false }
    else if t = "skip".toList then .ok { k with skipsDevices := true }
    else .error ⟨"unknown devices method".toList, false, 2⟩
  | 'X' =>
    match ways.lookup t with
    | some way => k.choose way
    | none => .error ⟨"invalid matcher ".toList ++ t, false, 2⟩
  | _ => (lineDigits t).map fun n => { k with around := some n }

def Request.addLetter (k : Request) : Char → Except Fault Request
  | 'E' => k.choose .extended
  | 'F' => k.choose .fixed
  | 'G' => k.choose .basic
  | 'P' => k.choose .perl
  | 'H' => .ok { k with named := some true }
  | 'h' => .ok { k with named := some false }
  | 'I' => .ok { k with binary := .skip }
  | 'a' => .ok { k with binary := .text }
  | 'L' => .ok { k with naming := some false }
  | 'l' => .ok { k with naming := some true }
  | 'T' => .ok { k with aligned := true }
  | 'V' => .ok { k with versions := true }
  | 'Z' => .ok { k with nulAfterName := true }
  | 'b' => .ok { k with offsets := true }
  | 'c' => .ok { k with counting := true }
  | 'i' | 'y' => .ok { k with fold := true }
  | 'n' => .ok { k with numbers := true }
  | 'o' => .ok { k with onlyParts := true }
  | 'q' => .ok { k with quiet := true }
  | 'r' => .ok { k with directories := .recurse, follows := false }
  | 'R' => .ok { k with directories := .recurse, follows := true }
  | 's' => .ok { k with silent := true }
  | 'v' => .ok { k with invert := true }
  | 'w' => .ok { k with wholeWords := true }
  | 'x' => .ok { k with wholeLines := true }
  | 'z' => .ok { k with ending := 0 }
  | _ => .ok k

def contentOf (c : Call) (name : Chars) : Work Chars := do
  let content : Except SystemError Bytes ←
    match ← Work.openOperand c name with
    | .error e => pure (.error e)
    | .ok number => Work.readAll number
  match content with
  | .ok bytes => return Octets.ofBytes bytes
  | .error e => Work.fail c 2 (name ++ ": ".toList ++ e.wording)

def Request.add (k : Request) (c : Call) (letter : Char) (value : Option Chars) : Work Request := do
  let settle (next : Except Fault Request) : Work Request :=
    match next with
    | .ok k => pure k
    | .error fault => fault.fail c
  match Long.all.lookup letter, value with
  | some .excludeFrom, value =>
    let content ← contentOf c (value.getD [])
    return { k with filters := k.filters ++ (namesOfFile content).map (false, ·) }
  | some long, value => settle (k.addLong value long)
  | none, some t =>
    if letter = 'f' then
      let content ← contentOf c t
      return k.addPatterns (patternsOfFile t content)
    else settle (k.addValue letter t)
  | none, none =>
    if letter = 'u' then
      Work.say c (c.complaint "warning: --unix-byte-offsets (-u) is obsolete".toList).2
    settle (k.addLetter letter)

def Request.addAll (k : Request) (c : Call) : List (Char × Option Chars) → Work Request
  | [] => return k
  | (letter, value) :: rest => do
    let k ← k.add c letter value
    k.addAll c rest

def version : Chars := "grep (GNU grep) 3.8\n".toList

end PipelineShell.Userland.Search
