import PipelineShell.Userland.Regex

/-!
# Sets in brackets

Symbols, ranges of bytes and classes, possibly complemented.
-/

namespace PipelineShell.Userland.Regex

/-- How an expression is written and read. -/
structure Manner where
  extended : Bool
  fold : Bool
  wide : Bool
  byLines : Bool := true
  deriving DecidableEq

def openSet : Chars := "Unmatched [, [^, [:, [., or [=".toList

def badSymbol : Chars := "Invalid collation character".toList

def badRange : Chars := "Invalid range end".toList

/-- A member of a set as it is read: one symbol, or a class. -/
inductive Member
  | one (c : Char)
  | ofClass (p : Char → Bool)

def named (mark : Char) : Chars → Option (Chars × Chars)
  | a :: ']' :: rest =>
    if a = mark then some ([], rest)
    else (named mark (']' :: rest)).map fun (t, rest) => (a :: t, rest)
  | a :: rest => (named mark rest).map fun (t, rest) => (a :: t, rest)
  | [] => none

def Manner.isNarrow (m : Manner) (c : Char) : Bool := !m.wide || c.toNat < 128 || !isDecoded c

def Manner.class? (m : Manner) (name : Chars) : Option (Char → Bool) :=
  let name : Chars :=
    if m.fold && (name = "upper".toList || name = "lower".toList) then "alpha".toList else name
  ((Text.Class.named m.wide).lookup name).map fun p c => isDecoded c && p c

/-- Reads one member of a set; `up` changes symbols as they are read. -/
def Manner.member (m : Manner) (up : Char → Char) (t : Chars) : Except Chars (Member × Chars) :=
  match t with
  | '[' :: mark :: rest =>
    if mark = ':' || mark = '=' || mark = '.' then
      match named mark rest with
      | none => .error openSet
      | some (name, rest) =>
        if mark = ':' then
          match m.class? name with
          | some p => .ok (.ofClass p, rest)
          | none => .error "Invalid character class name".toList
        else
          match name with
          | [c] =>
            if !m.isNarrow c then .error badSymbol
            else .ok (if mark = '=' then .ofClass (· = up c) else .one (up c), rest)
          | _ => .error badSymbol
    else .ok (.one '[', mark :: rest)
  | c :: rest => .ok (.one (up c), rest)
  | [] => .error openSet

mutual

/-- Reads the members of a set up to its closing bracket; `up` changes symbols as they are read. A
range that ends before it begins is empty, or a fault if that is `strict`. -/
def Manner.members (m : Manner) (strict : Bool) (up : Char → Char) : (fuel : Nat) →
    (first : Bool) → (Char → Bool) → Chars → Except Chars ((Char → Bool) × Chars)
  | 0, _, _, _ => .error openSet
  | fuel + 1, first, p, t =>
    match t with
    | [] => .error openSet
    | ']' :: rest => if first then m.memberOrRange strict up fuel p t else .ok (p, rest)
    | _ => m.memberOrRange strict up fuel p t

def Manner.memberOrRange (m : Manner) (strict : Bool) (up : Char → Char) : (fuel : Nat) →
    (Char → Bool) → Chars → Except Chars ((Char → Bool) × Chars)
  | 0, _, _ => .error openSet
  | fuel + 1, p, t =>
    match m.member up t with
    | .error e => .error e
    | .ok (first, rest) =>
      let isRange := rest.head? = some '-' && (rest.drop 1).head? ≠ some ']' && rest.length ≥ 2
      match first with
      | .ofClass q =>
        if isRange then .error badRange
        else m.members strict up fuel false (fun c => p c || q c) rest
      | .one a =>
        if isRange then
          match m.member up (rest.drop 1) with
          | .error e => .error e
          | .ok (.ofClass _, _) => .error badRange
          | .ok (.one b, rest) =>
            if !m.isNarrow a || !m.isNarrow b then .error badSymbol
            else if strict && b < a then .error badRange
            else
              m.members strict up fuel false
                (fun c => p c || (m.isNarrow c && a ≤ c && c ≤ b)) rest
        else if rest.isEmpty then .error openSet
        else m.members strict up fuel false (fun c => p c || c = a) rest

end

def ofCaret : Chars → Bool × Chars
  | '^' :: rest => (true, rest)
  | t => (false, t)

/-- Reads a set behind its opening bracket. If case does not count, all symbols are taken in upper
case. -/
def Manner.bracket (m : Manner) (t : Chars) : Except Chars ((Char → Bool) × Chars) :=
  let (negated, body) := ofCaret t
  let up (c : Char) : Char := if m.fold then upper m.wide c else c
  if body.isEmpty then .error "Invalid regular expression".toList
  else
    match m.members true up (2 * body.length + 2) true (fun _ => false) body with
    | .error e => .error e
    | .ok (p, rest) =>
      .ok (if negated then fun c => isDecoded c && !p (up c) else fun c => p (up c), rest)

/-- Reads a set behind its opening bracket as it is. If case does not count, it has what is another
case of one of its members. -/
def Manner.closedBracket (m : Manner) (t : Chars) : Except Chars ((Char → Bool) × Chars) :=
  let (negated, body) := ofCaret t
  match m.members false id (2 * body.length + 2) true (fun _ => false) body with
  | .error e => .error e
  | .ok (p, rest) =>
    let q (c : Char) : Bool :=
      p c || (m.fold && (p (upper m.wide c) || p (lower m.wide c)))
    .ok (if negated then fun c => isDecoded c && !q c else q, rest)

/-- Whether what is read behind an opening bracket, up to what is left, looks like the name of a
class that lacks brackets of its own. -/
def isLoneClass (t rest : Chars) : Bool :=
  let inner := t.take (t.length - rest.length - 1)
  inner.length ≥ 3 && inner.head? = some ':' && inner.getLast? = some ':' &&
    !inner.contains '-' && !inner.contains '['

def Manner.literal (m : Manner) (c : Char) : Regex :=
  if m.fold then .one fun x => upper m.wide x = upper m.wide c else .one (· = c)

def Manner.kind? (m : Manner) (escaped : Bool) (c : Char) : Option (Char → Bool) :=
  let isSpace (c : Char) : Bool := ((m.class? "space".toList).map (· c)).getD false
  if !escaped then if c = '.' then some isDecoded else none
  else
    match c with
    | 'w' => some (isWord m.wide)
    | 'W' => some fun c => isDecoded c && !isWord m.wide c
    | 's' => some isSpace
    | 'S' => some fun c => isDecoded c && !isSpace c
    | _ => none

def spot? (c : Char) : Option Spot :=
  match c with
  | '<' => some .wordStart
  | '>' => some .wordEnd
  | 'b' => some .wordEdge
  | 'B' => some .noWordEdge
  | '\x60' => some .lineStart
  | '\'' => some .lineEnd
  | _ => none

end PipelineShell.Userland.Regex
