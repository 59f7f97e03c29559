import PipelineShell.Script.Tree

/-!
# The text of a script

Characters with their line numbers, and tokens, of which the last can be put back. Aliases are read
in place of their names, here-documents behind their line.
-/

namespace PipelineShell.Script

/-- The words with a meaning of their own. -/
inductive Keyword
  | not
  | caseOf
  | doing
  | done
  | elseIf
  | elseOf
  | esac
  | fi
  | forEach
  | ifOf
  | inOf
  | thenOf
  | untilOf
  | whileOf
  | opening
  | closing
  deriving DecidableEq, Repr

def Keyword.texts : List (Chars × Keyword) :=
  [("!".toList, .not), ("case".toList, .caseOf), ("do".toList, .doing), ("done".toList, .done),
    ("elif".toList, .elseIf), ("else".toList, .elseOf), ("esac".toList, .esac), ("fi".toList, .fi),
    ("for".toList, .forEach), ("if".toList, .ifOf), ("in".toList, .inOf), ("then".toList, .thenOf),
    ("until".toList, .untilOf), ("while".toList, .whileOf), ("\x7b".toList, .opening),
    ("\x7d".toList, .closing)]

/-- A token. The content of words and redirections is kept apart. -/
inductive Token
  | finish
  | newline
  | semicolon
  | background
  | and
  | or
  | pipe
  | opening
  | closing
  | endCase
  | redirection
  | word
  | keyword (k : Keyword)
  deriving DecidableEq, Repr

def Token.label : Token → Chars
  | .finish => "end of file".toList
  | .newline => "newline".toList
  | .semicolon => "\";\"".toList
  | .background => "\"&\"".toList
  | .and => "\"&&\"".toList
  | .or => "\"||\"".toList
  | .pipe => "\"|\"".toList
  | .opening => "\"(\"".toList
  | .closing => "\")\"".toList
  | .endCase => "\";;\"".toList
  | .redirection => "redirection".toList
  | .word => "word".toList
  | .keyword k =>
    '"' :: ((Keyword.texts.find? (·.2 = k)).map (·.1)).getD [] ++ ['"']

def Token.endsList : Token → Bool
  | .finish | .closing | .endCase => true
  | .keyword k => [Keyword.doing, .done, .elseIf, .elseOf, .esac, .fi, .thenOf, .closing].contains k
  | _ => false

/-- What is wrong with a script, and in which line. -/
structure Fault where
  line : Nat
  message : Chars
  deriving DecidableEq, Repr

/-- What a redirection is about, before its target is read. -/
inductive Direction
  | file (access : Access)
  | same
  | document (stripTabs : Bool)

/-- A text that has been announced: its number, the line that ends it, whether leading tabs are
dropped, and whether it is expanded. -/
structure Announced where
  number : Nat
  ending : Chars
  stripTabs : Bool
  expanded : Bool

/-- A word that is being replaced, how much of the source stands behind the text in its place, and
whether the word behind it may be replaced as well. -/
structure Replacing where
  name : Chars
  left : Nat
  chain : Bool

/-- Which tokens are special next. -/
structure Expecting where
  anyLine : Bool := false
  keywords : Bool := false
  replaced : Bool := false
  ending : Bool := false

/-- Where the reader is in a script. -/
structure Source where
  rest : Chars
  line : Nat := 1
  replacements : List (Chars × Chars) := []
  replacing : List Replacing := []
  expecting : Expecting := {}
  last : Token := .newline
  pushed : Bool := false
  word : List Part := []
  quoted : Bool := false
  direction : Nat × Direction := (0, .same)
  announced : List Announced := []
  documents : Array Document := #[]
  /-- The line that ends the text that is read, whether tabs before it are dropped, and whether it
  has been met. -/
  ending : Option (Chars × Bool) := none
  ended : Bool := false
  exhausted : Bool := false

abbrev Reading := StateT Source (Except Fault)

namespace Source

def isNameStart (c : Char) : Bool := c.isAlpha || c = '_'

def isNameChar (c : Char) : Bool := c.isAlphanum || c = '_'

def isName : Chars → Bool
  | [] => false
  | c :: rest => isNameStart c && rest.all isNameChar

def isSpecial (c : Char) : Bool := "*@#?-$!".toList.contains c

def fail {α : Type} (message : Chars) : Reading α := do
  throw ⟨(← get).line, "Syntax error: ".toList ++ message⟩

def unexpected {α : Type} (wanted : Option Token) : Reading α := do
  fail ((← get).last.label ++ " unexpected".toList ++
    match wanted with
    | some t => " (expecting ".toList ++ t.label ++ [')']
    | none => [])

def settle (s : Source) : Source :=
  if s.replacing.isEmpty then s
  else
    let left := s.rest.length
    if s.replacing.any fun r => r.chain && left < r.left then
      { s with expecting := { s.expecting with replaced := true } }
    else s

def forget (s : Source) : Source :=
  if s.replacing.isEmpty then s
  else
    let left := s.rest.length
    { s with replacing := s.replacing.filter (·.left ≤ left) }

def next : Reading (Option Char) := do
  let s := (← get).forget
  match s.rest with
  | [] =>
    set { s with exhausted := true }
    return none
  | c :: rest =>
    set ({ s with rest } : Source).settle
    return some c

def back (c : Option Char) : Reading Unit :=
  match c with
  | none => pure ()
  | some c => modify fun s => { s with rest := c :: s.rest }

def countLine : Reading Unit := modify fun s => { s with line := s.line + 1 }

def joined : Chars → Chars × Nat
  | '\\' :: '\n' :: rest =>
    let (t, n) := joined rest
    (t, n + 1)
  | t => (t, 0)

def nextJoined : Reading (Option Char) := do
  modify fun s =>
    let (rest, n) := joined s.rest
    { s with rest, line := s.line + n }
  next

def pushBack : Reading Unit := modify fun s => { s with pushed := true }

def expect (e : Expecting) : Reading Unit := modify fun s => { s with expecting := e }

def plain? : List Part → Option Chars
  | [.literal false t] => some t
  | _ => none

def plainWord? (s : Source) : Option Chars := if s.quoted then none else plain? s.word

def replacement? (s : Source) (name : Chars) : Option Chars :=
  match s.replacements.lookup name with
  | none => none
  | some t =>
    let left := s.rest.length
    if s.replacing.any fun r => r.name = name && r.left ≤ left then none else some t

def replace (name t : Chars) : Reading Unit := modify fun s =>
  let chain := t.getLast? = some ' ' || t.getLast? = some '\t'
  { s with rest := t ++ s.rest, replacing := ⟨name, s.rest.length, chain⟩ :: s.replacing }

def addChar (quoted : Bool) (c : Char) : List Part → List Part
  | .literal q t :: rest =>
    if q = quoted then .literal q (c :: t) :: rest else .literal quoted [c] :: .literal q t :: rest
  | parts => .literal quoted [c] :: parts

def finish (parts : List Part) : List Part :=
  parts.reverse.map fun
    | .literal q t => .literal q t.reverse
    | part => part

end Source
end PipelineShell.Script
