import PipelineShell.Script.Source

/-!
# What characters mean where

The quoting contexts of a character in a word, and here-documents.
-/

namespace PipelineShell.Script

/-- What surrounds a part of a word. -/
inductive Surrounding
  | plain
  | single
  /-- Double quotes; `nested` tells whether there are braces around them. -/
  | double (nested : Bool)
  | brace
  /-- The braces of a parameter that is itself quoted; `inner` tells whether there are double quotes
  within them. -/
  | quotedBrace (inner : Bool)
  | document
  | verbatim
  | arithmetic (depth : Nat)
  deriving DecidableEq, Repr

/-- What a character of a word does. -/
inductive Role
  | text
  | close
  | escape
  | dollar
  | output
  | openSingle
  | openDouble
  | toggle
  | openParenthesis
  | closeParenthesis
  deriving DecidableEq, Repr

namespace Surrounding

def isQuoting : Surrounding → Bool
  | .plain | .brace | .single | .verbatim => false
  | _ => true

def quotesText (s : Surrounding) (inDocument : Bool) : Bool :=
  match s with
  | .single => !inDocument
  | .double _ | .quotedBrace _ => true
  | _ => false

def isInBraces : Surrounding → Bool
  | .double nested => nested
  | .brace | .quotedBrace _ => true
  | _ => false

def isEndOfWord (c : Char) : Bool := "<>();&| \t".toList.contains c

def role (s : Surrounding) (c : Char) : Role :=
  match s, c with
  | .verbatim, _ => .text
  | .single, '\'' => .close
  | .single, _ => .text
  | _, '\\' => .escape
  | _, '$' => .dollar
  | _, '\x60' => .output
  | .plain, '\'' | .brace, '\'' => .openSingle
  | .plain, '"' | .brace, '"' => .openDouble
  | .plain, c => if isEndOfWord c then .close else .text
  | .brace, '\x7d' => .close
  | .double _, '"' => .close
  | .quotedBrace _, '"' => .toggle
  | .quotedBrace false, '\x7d' => .close
  | .arithmetic _, '(' => .openParenthesis
  | .arithmetic _, ')' => .closeParenthesis
  | _, _ => .text

def isEscapable (s : Surrounding) (inDocument : Bool) (c : Char) : Bool :=
  !s.isQuoting || c = '\\' || c = '\x60' || c = '$' ||
    (c = '"' && !(inDocument && !s.isInBraces)) || (c = '\x7d' && s.isInBraces)

def within (s : Surrounding) : Surrounding := if s.isQuoting then .quotedBrace false else .brace

end Surrounding

namespace Source

def nextPart (raw : Bool) : Reading (Option Char) := do
  if (← get).ended then return none
  if raw then next else nextJoined

def dropTabs : Chars → Chars := List.dropWhile (· = '\t')

def beginLine (raw : Bool) : Reading Unit := do
  match (← get).ending with
  | none => return
  | some (mark, stripTabs) =>
    if !raw then
      modify fun s =>
        let (rest, n) := joined s.rest
        { s with rest, line := s.line + n }
    if stripTabs then modify fun s => { s with rest := dropTabs s.rest }
    let s ← get
    if mark.isPrefixOf s.rest then
      match s.rest.drop mark.length with
      | [] => set { s with rest := [], line := s.line + 1, ended := true, exhausted := true }
      | '\n' :: rest => set { s with rest, line := s.line + 1, ended := true }
      | _ => return

def inDocument : Reading Bool := do return (← get).ending.isSome

def setQuoted : Reading Unit := modify fun s => { s with quoted := true }

def addMark (parts : List Part) : Reading (List Part) := do
  return if ← inDocument then parts else .mark :: parts

def checkEnd (s : Surrounding) : Reading Unit := do
  let document ← inDocument
  match s with
  | .plain | .document | .verbatim => return
  | .brace => fail "Missing '\x7d'".toList
  | .arithmetic _ => fail "Missing '))'".toList
  | .single | .double _ | .quotedBrace _ =>
    fail (if document then "Missing '\x7d'".toList else "Unterminated quoted string".toList)

def readWhile (p : Char → Bool) : Nat → Chars → Reading (Chars × Option Char)
  | 0, done => return (done.reverse, none)
  | fuel + 1, done => do
    match ← nextPart false with
    | some c => if p c then readWhile p fuel (c :: done) else return (done.reverse, some c)
    | none => return (done.reverse, none)

def readBackquoted (quoting : Bool) : Nat → Chars → Reading Chars
  | 0, done => return done.reverse
  | fuel + 1, done => do
    match ← nextJoined with
    | none => fail "EOF in backquote substitution".toList
    | some '\x60' => return done.reverse
    | some '\n' =>
      countLine
      readBackquoted quoting fuel ('\n' :: done)
    | some '\\' =>
      match ← next with
      | none => readBackquoted quoting fuel ('\\' :: done)
      | some c =>
        let dropped := c = '\\' || c = '\x60' || c = '$' || (quoting && c = '"')
        readBackquoted quoting fuel (c :: if dropped then done else '\\' :: done)
    | some c => readBackquoted quoting fuel (c :: done)

def readBlanks : Nat → Reading (Option Char)
  | 0 => return none
  | fuel + 1 => do
    match ← nextJoined with
    | some ' ' | some '\t' => readBlanks fuel
    | some '#' =>
      modify fun s => { s with rest := s.rest.dropWhile (· ≠ '\n') }
      readBlanks fuel
    | c => return c

def readDoubled (c : Char) (double single : Token) : Reading Token := do
  let d ← nextJoined
  if d = some c then return double
  back d
  return single

def readDirection (first : Char) (descriptor : Option Nat) : Reading Unit := do
  let c ← nextJoined
  let number (n : Nat) : Nat := descriptor.getD n
  let direction : Nat × Direction ←
    if first = '>' then
      match c with
      | some '>' => pure (number 1, .file .append)
      | some '|' => pure (number 1, .file .overwrite)
      | some '&' => pure (number 1, .same)
      | c => do
        back c
        pure (number 1, .file .write)
    else
      match c with
      | some '<' => do
        let d ← nextJoined
        if d ≠ some '-' then back d
        pure (number 0, .document (d = some '-'))
      | some '&' => pure (number 0, .same)
      | some '>' => pure (number 0, .file .both)
      | c => do
        back c
        pure (number 0, .file .read)
  modify fun s => { s with direction }

def spelled (parts : List Part) : Chars :=
  parts.flatMap fun
    | .literal _ t => t
    | _ => []

def assignment? : List Part → Option (Chars × List Part)
  | .literal false t :: rest =>
    let name := t.takeWhile isNameChar
    match t.drop name.length with
    | '=' :: value =>
      if isName name then
        some (name, if value.isEmpty then rest else .literal false value :: rest)
      else none
    | _ => none
  | _ => none

end Source
end PipelineShell.Script
