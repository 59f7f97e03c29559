import PipelineShell.Text.Class

/-!
# Patterns

`*`, `?`, sets in brackets and backslashes. An unclosed bracket is literal.
-/

namespace PipelineShell.Script.Pattern

def classes : List (Chars × (Char → Bool)) :=
  Text.Class.basic.map fun c => (':' :: c.1 ++ ":]".toList, c.2)

def class? (pattern : Chars) : Option ((Char → Bool) × Chars) :=
  (classes.find? fun c => c.1.isPrefixOf pattern).map fun c => (c.2, pattern.drop c.1.length)

/-- The place of an octet in the order of ranges, in which those without ASCII characters come
first. -/
def rank (c : Char) : Int := if c.toNat < 128 then c.toNat else (c.toNat : Int) - 256

/-- Whether a character is the member of a set that begins with `low`, perhaps as a range, and what
is behind it. -/
def isMember (c low : Char) (rest : Chars) : Bool × Chars :=
  let between (high : Char) : Bool := rank low ≤ rank c && rank c ≤ rank high
  match rest with
  | '-' :: ']' :: _ => (c = low, rest)
  | '-' :: '\\' :: high :: rest => (between high, rest)
  | '-' :: high :: rest => (between high, rest)
  | _ => (c = low, rest)

/-- Whether a character is in the set at the beginning of a pattern, and what is behind the closing
bracket; nothing if there is none. The first character of the set may be a bracket. -/
def inSet (c : Char) : Nat → (first found : Bool) → Chars → Option (Bool × Chars)
  | 0, _, _, _ => none
  | fuel + 1, first, found, pattern =>
    let goOn (m : Bool × Chars) : Option (Bool × Chars) := inSet c fuel false (found || m.1) m.2
    match pattern with
    | [] => none
    | ']' :: rest => if first then goOn (isMember c ']' rest) else some (found, rest)
    | '[' :: rest =>
      match class? rest with
      | some (isIn, rest) => goOn (isIn c, rest)
      | none => goOn (isMember c '[' rest)
    | '\\' :: d :: rest => goOn (isMember c d rest)
    | '\\' :: [] => none
    | d :: rest => goOn (isMember c d rest)

/-- A piece of a pattern. -/
inductive Piece
  | any
  | one (test : Char → Bool)

def pieces : Nat → Chars → List Piece
  | 0, _ | _, [] => []
  | fuel + 1, '*' :: rest => .any :: pieces fuel rest
  | fuel + 1, '?' :: rest => .one (fun _ => true) :: pieces fuel rest
  | fuel + 1, '[' :: rest =>
    let (negated, set) : Bool × Chars :=
      match rest with
      | '!' :: set => (true, set)
      | set => (false, set)
    match inSet ' ' set.length.succ true false set with
    | some (_, behind) =>
      .one (fun c => (inSet c set.length.succ true false set).any (·.1 != negated)) ::
        pieces fuel behind
    | none => .one (· = '[') :: pieces fuel rest
  | fuel + 1, '\\' :: d :: rest => .one (· = d) :: pieces fuel rest
  | fuel + 1, d :: rest => .one (· = d) :: pieces fuel rest

/-- Before which pieces a match may stand at the beginning, and at last whether it may be complete;
`here` tells that for the first. -/
def starting (here : Bool) : List Piece → List Bool
  | [] => [here]
  | .any :: rest => here :: starting here rest
  | .one _ :: rest => here :: starting false rest

def advance (c : Char) (here : Bool) : List Piece → List Bool → List Bool
  | .any :: rest, before :: more => (here || before) :: advance c (here || before) rest more
  | .one test :: rest, before :: more => here :: advance c (before && test c) rest more
  | _, _ => [here]

/-- The sizes of the beginnings of a text that some pieces stand for, in descending order, in front
of those found so far; `size` characters have been passed, and `live` tells where a match may
stand. -/
def sizesFrom (pieces : List Piece) (found : List Nat) (size : Nat) (live : List Bool) :
    Chars → List Nat
  | [] => if live.getLast?.getD false then size :: found else found
  | c :: rest =>
    sizesFrom pieces (if live.getLast?.getD false then size :: found else found) (size + 1)
      (advance c false pieces live) rest

def sizes (pieces : List Piece) (text : Chars) : List Nat :=
  sizesFrom pieces [] 0 (starting true pieces) text

def isMatch (pattern text : Chars) : Bool :=
  let all := pieces pattern.length pattern
  (text.foldl (fun live c => advance c false all live) (starting true all)).getLast?.getD false

def trim (atEnd longest : Bool) (pattern text : Chars) : Chars :=
  let all := pieces pattern.length pattern
  let found := if atEnd then sizes all.reverse text.reverse else sizes all text
  match if longest then found.head? else found.getLast? with
  | some n => if atEnd then text.take (text.length - n) else text.drop n
  | none => text

def isSpecial (t : Chars) : Bool := t.any fun c => c = '*' || c = '?' || c = '['

example : isMatch "a*[!b-d]?".toList "axez".toList = true := by decide
example : isMatch "[a".toList "[a".toList = true := by decide
example : trim false true "*/".toList "/a/b".toList = "b".toList := by decide

end PipelineShell.Script.Pattern
