import PipelineShell.Script.Field
import PipelineShell.Script.FileName
import PipelineShell.Script.Shell

/-!
# Expansion

Tilde, parameter, command and arithmetic expansion of a word, then field splitting and file names.
-/

namespace PipelineShell.Script.Expansion

open Script.Shell

/-- How the parts of a word are expanded. -/
structure Manner where
  full : Bool := false
  tilde : Bool := false
  colons : Bool := false
  breaking : Bool := false

def homes : List (Chars × Chars) :=
  [("root", "/root"), ("daemon", "/usr/sbin"), ("bin", "/bin"), ("sys", "/dev"), ("sync", "/bin"),
    ("games", "/usr/games"), ("man", "/var/cache/man"), ("lp", "/var/spool/lpd"),
    ("mail", "/var/mail"), ("news", "/var/spool/news"), ("uucp", "/var/spool/uucp"),
    ("proxy", "/bin"), ("www-data", "/var/www"), ("backup", "/var/backups"), ("list", "/var/list"),
    ("irc", "/run/ircd"), ("nobody", "/nonexistent")].map fun (n, d) => (n.toList, d.toList)

def home? (s : Shell) (name : Chars) : Option Chars :=
  if name.isEmpty then s.value? "HOME".toList else homes.lookup name

/-- Expands the tildes in a text that is not quoted. A user's name must end within the text, or the
text must be the last part of the word. -/
def expandTildes (s : Shell) (m : Manner) (isLast : Bool) : Nat → (start : Bool) → Chars → List Piece
  | 0, _, _ => []
  | fuel + 1, start, t =>
    let region : Region := if m.breaking then .separators else .never
    let plain (start : Bool) (chunk rest : Chars) : List Piece :=
      ⟨region, Cell.ofText false chunk⟩ :: expandTildes s m isLast fuel start rest
    match t with
    | [] => []
    | '~' :: rest =>
      let name := rest.takeWhile fun c => c ≠ '/' && !(m.colons && c = ':')
      let behind := rest.drop name.length
      match if start && (isLast || !behind.isEmpty) then home? s name else none with
      | some home => ⟨.never, Cell.ofText true home⟩ :: expandTildes s m isLast fuel false behind
      | none => plain false ['~'] rest
    | c :: rest =>
      if !m.colons then plain false t []
      else if c = ':' then plain true [':'] rest
      else
        let chunk := c :: rest.takeWhile (· ≠ ':')
        plain false chunk (t.drop chunk.length)

def joint (s : Shell) (name : Chars) (full quoted : Bool) : List Cell :=
  if full && quoted && name = ['@'] then [.char false '\x00']
  else
    match s.separators with
    | none => [.char false ' ']
    | some ifs =>
      if full && !quoted then [.char false '\x00']
      else
        match ifs with
        | [] => []
        | c :: _ => Cell.ofText quoted [c]

def flagText (s : Shell) : Chars :=
  "pubaCEVvxsnmiIfe".toList.foldl (fun t c =>
    if s.isOn c && !t.contains c then t ++ [c] else t) []

def valueOf (s : Shell) (name : Chars) (full quoted : Bool) : Option (List Cell) :=
  let ofText (t : Chars) : Option (List Cell) := some (Cell.ofText quoted t)
  match name with
  | ['$'] => ofText (Chars.ofNat s.root)
  | ['?'] => ofText (Chars.ofInt s.status)
  | ['#'] => ofText (Chars.ofNat s.args.length)
  | ['!'] => if s.lastBackground = 0 then none else ofText (Chars.ofNat s.lastBackground)
  | ['-'] => ofText (flagText s)
  | ['@'] | ['*'] =>
    let between := joint s name full quoted
    some ((s.args.map (Cell.ofText quoted)).intersperse between).flatten
  | name =>
    if name.head?.any Char.isDigit then
      let n := decimal name
      if n = 0 then ofText s.name else (s.args[n - 1]?).bind ofText
    else (s.value? name).bind ofText
where
  decimal (t : Chars) : Nat := t.foldl (fun n c => 10 * n + (c.toNat - 48)) 0

def refuse {α : Type} (name message : Chars) : Run α := fail (name ++ ": ".toList ++ message)

def unsetMessage : Chars := "parameter not set".toList

def tidy (t : Chars) : Chars := ((t.filter (· ≠ '\x00')).reverse.dropWhile (· = '\n')).reverse

section

variable (run : Option Node → Run Chars)

mutual

/-- Expands the parts of a word; `start` tells that it begins here, and `within` that a quotation
is open. -/
def expandParts : Nat → Manner → (start within : Bool) → List Part → Run (List Piece)
  | 0, _, _, _, _ => return []
  | fuel + 1, m, start, within, parts => do
    match parts with
    | [] => return []
    | .mark :: .parameter true ['@'] .value :: .mark :: rest =>
      if within then
        let inner ← expandParts fuel m false false
          (.parameter true ['@'] .value :: .mark :: rest)
        return ⟨.never, [.mark]⟩ :: inner
      else
        let all ← expandParameter fuel m true ['@'] .value
        return all ++ (← expandParts fuel m false false rest)
    | .mark :: rest => return ⟨.never, [.mark]⟩ :: (← expandParts fuel m false (!within) rest)
    | .literal true t :: rest =>
      return ⟨.never, Cell.ofText true t⟩ :: (← expandParts fuel m false within rest)
    | .literal false t :: rest =>
      let pieces := expandTildes (← get) m rest.isEmpty t.length.succ (start && m.tilde) t
      return pieces ++ (← expandParts fuel m false within rest)
    | .parameter quoted name use :: rest =>
      let pieces ← expandParameter fuel m quoted name use
      return pieces ++ (← expandParts fuel m false within rest)
    | .arithmetic quoted expression :: rest =>
      let t := Cell.toText (Field.whole (← expandParts fuel {} false false expression))
      let s ← get
      let piece : Piece ←
        match Arithmetic.evaluate ⟨s.value?, s.bindings.isReadonly⟩ t with
        | .error (.wrong message) => fail message
        | .error .overflow => die Userland.Signal.arithmetic
        | .ok (n, assigned) => do
          for (name, n) in assigned do assign name (Chars.ofInt n)
          pure ⟨if quoted then .never else .separators, Cell.ofText quoted (Chars.ofInt n)⟩
      return piece :: (← expandParts fuel m false within rest)
    | .output quoted body :: rest =>
      let t := tidy (← run body)
      let piece : Piece := ⟨if quoted then .never else .separators, Cell.ofText quoted t⟩
      return piece :: (← expandParts fuel m false within rest)

def expandParameter : Nat → Manner → (quoted : Bool) → Chars → Use → Run (List Piece)
  | 0, _, _, _, _ => return []
  | fuel + 1, m, quoted, name, use => do
    let s ← get
    let region (s : Shell) : Region :=
      if !quoted then .separators
      else if name = ['@'] && !s.args.isEmpty then .nul
      else .never
    let value := valueOf s name m.full quoted
    let strict := value.isNone && s.isOn 'u'
    match use with
    | .unknown => fail "Bad substitution".toList
    | .value =>
      if strict then refuse name unsetMessage
      match value with
      | some cells => return [⟨region s, cells⟩]
      | none => return []
    | .length =>
      if strict then refuse name unsetMessage
      let size := ((valueOf s name false quoted).map (·.length)).getD 0
      return [⟨region s, Cell.ofText quoted (Chars.ofNat size)⟩]
    | .trim atEnd longest pattern =>
      if strict then refuse name unsetMessage
      match value with
      | none => return []
      | some cells =>
        let pattern ← expandParts fuel { tilde := true } true false pattern
        let t := Pattern.trim atEnd longest (Cell.toPattern (Field.whole pattern))
          (Cell.toText cells)
        return [⟨region (← get), Cell.ofText quoted t⟩]
    | .otherwise nonempty action word =>
      let usable :=
        match valueOf s name (m.full && action ≠ '+') quoted with
        | some cells => !(nonempty && cells.isEmpty)
        | none => false
      let inner : Manner := { m with tilde := true, breaking := !quoted }
      let current : List Piece := [⟨region s, value.getD []⟩]
      match action with
      | '+' =>
        if usable then expandParts fuel inner true false word else return [⟨region s, []⟩]
      | '-' => if usable then return current else expandParts fuel inner true false word
      | action =>
        if usable then return current
        let pieces ← expandParts fuel { m with tilde := true, full := false } true false word
        let t := Cell.toText (Field.whole pieces)
        if action = '?' then
          refuse name (if !word.isEmpty then t
            else if nonempty then unsetMessage ++ " or null".toList
            else unsetMessage)
        assign name t
        let s ← get
        return [⟨region s, (valueOf s name m.full quoted).getD []⟩]

end

def fuel : Nat := 1000000

def namesOf (s : Shell) (field : List Cell) : List Chars :=
  let t := Cell.toText field
  if s.isOn 'f' || !Pattern.isSpecial t then [t]
  else
    match FileName.expand s.files s.cwd (Cell.toPattern field) with
    | [] => [t]
    | names => names

def fields (word : List Part) : Run (List Chars) := do
  let pieces ← expandParts run fuel { full := true, tilde := true } true false word
  let s ← get
  return (Field.split (s.separators.getD Field.blanks) none pieces).flatMap (namesOf s)

/-- The text that a word is expanded to; with `colons`, tildes may stand behind colons. -/
def text (colons : Bool) (word : List Part) : Run Chars := do
  let pieces ← expandParts run fuel { tilde := true, colons } true false word
  return Cell.toText (Field.whole pieces)

/-- The text that a word with an assignment is expanded to, tildes being expanded behind the equals
sign only. -/
def assignmentText (name : Chars) (value : List Part) : Run Chars := do
  return name ++ '=' :: (← text run true value)

def pattern (word : List Part) : Run Chars := do
  let pieces ← expandParts run fuel { tilde := true } true false word
  return Cell.toPattern (Field.whole pieces)

def document (d : Document) : Run Chars := do
  if d.expanded then
    let pieces ← expandParts run fuel {} false false d.body
    return Cell.toText (Field.whole pieces)
  else
    return d.body.flatMap fun
      | .literal _ t => t
      | _ => []

end
end PipelineShell.Script.Expansion
