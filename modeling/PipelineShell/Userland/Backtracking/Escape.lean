import PipelineShell.Userland.Backtracking.Expression
import PipelineShell.Userland.Backtracking.Kind

/-!
# Escapes and sets

Backslash escapes, numbered symbols, and sets in brackets.
-/

namespace PipelineShell.Userland.Backtracking

/-- How an expression is read. -/
structure Flags where
  fold : Bool := false
  multi : Bool := false
  dotAll : Bool := false
  spaced : Bool := false
  verySpaced : Bool := false
  plain : Bool := false
  shares : Bool := false
  swapped : Bool := false
  wide : Bool := false
  deriving DecidableEq, Repr

abbrev Read (α : Type) := Except Chars (α × Chars)

def refuse {α : Type} (what : String) : Except Chars α := .error what.toList

def digit? (c : Char) : Option Nat :=
  if c.isDigit then some (c.toNat - 48)
  else if 'a' ≤ c && c ≤ 'f' then some (c.toNat - 87)
  else if 'A' ≤ c && c ≤ 'F' then some (c.toNat - 55)
  else none

def isDigitIn (base : Nat) (c : Char) : Bool := (digit? c).any (· < base)

def value (base : Nat) (digits : Chars) : Nat :=
  digits.foldl (fun n c => base * n + (digit? c).getD 0) 0

def symbolOf (wide : Bool) (n : Nat) (tooLarge : String) : Except Chars Char :=
  if !wide then if n < 256 then .ok (Char.ofNat n) else refuse tooLarge
  else if 0xd800 ≤ n && n < 0xe000 then
    refuse "disallowed Unicode code point (>= 0xd800 && <= 0xdfff)"
  else if n < 0x110000 then .ok (Char.ofNat n)
  else refuse tooLarge

def tooLarge : String := "character code point value in \\x\x7b\x7d or \\o\x7b\x7d is too large"

def braced (wide : Bool) (base : Nat) (wrong : String) (t : Chars) : Read Char :=
  let digits := t.takeWhile (isDigitIn base)
  if t.isEmpty || t.head? = some '\x7d' then
    refuse "digits missing in \\x\x7b\x7d or \\o\x7b\x7d or \\N\x7bU+\x7d"
  else
    match symbolOf wide (value base digits) tooLarge, t.drop digits.length with
    | .error e, _ => .error e
    | .ok c, '\x7d' :: rest => .ok (c, rest)
    | .ok _, _ => refuse wrong

def octal (wide : Bool) (t : Chars) : Read Char :=
  let digits := (t.take 3).takeWhile (isDigitIn 8)
  let wrong := "octal value is greater than \\377 in 8-bit non-UTF-8 mode"
  (symbolOf wide (value 8 digits) wrong).map fun c => (c, t.drop digits.length)

def hexadecimal (wide : Bool) : Chars → Read Char
  | '\x7b' :: rest =>
    braced wide 16 "non-hex character in \\x\x7b\x7d (closing brace missing?)" rest
  | t =>
    let digits := (t.take 2).takeWhile (isDigitIn 16)
    .ok (Char.ofNat (value 16 digits), t.drop digits.length)

/-- Reads the symbol that an escaped letter or digit stands for; nothing if it stands for no single
one. What is behind it is given. -/
def symbolOf? (wide : Bool) (c : Char) (rest : Chars) : Except Chars (Option (Char × Chars)) :=
  let one (c : Char) : Except Chars (Option (Char × Chars)) := .ok (some (c, rest))
  match c with
  | 'a' => one '\x07'
  | 'e' => one '\x1b'
  | 'f' => one '\x0c'
  | 'n' => one '\n'
  | 'r' => one '\r'
  | 't' => one '\t'
  | '0' => (octal wide (c :: rest)).map some
  | 'o' =>
    match rest with
    | '\x7b' :: rest =>
      (braced wide 8 "non-octal character in \\o\x7b\x7d (closing brace missing?)" rest).map some
    | _ => refuse "missing opening brace after \\o"
  | 'x' => (hexadecimal wide rest).map some
  | 'c' =>
    match rest with
    | [] => refuse "\\c at end of pattern"
    | d :: rest =>
      if d < ' ' || '~' < d then refuse "\\c must be followed by a printable ASCII character"
      else .ok (some (Char.ofNat (d.toUpper.toNat ^^^ 64), rest))
  | c => if c.isAlphanum then .ok none else one c

/-- Reads the kind with a property, behind its letter; `negated` tells whether it is that of all
other symbols. -/
def property (negated : Bool) (t : Chars) : Read Kind :=
  let kindOf (negated : Bool) (name rest : Chars) : Read Kind :=
    match Kind.property? name with
    | some p => .ok (if negated then p.other else p, rest)
    | none => refuse "unknown property after \\P or \\p"
  match t with
  | [] => refuse "malformed \\P or \\p sequence"
  | '\x7b' :: rest =>
    let (negated, rest) : Bool × Chars :=
      match rest with
      | '^' :: rest => (!negated, rest)
      | rest => (negated, rest)
    let name := rest.takeWhile (· ≠ '\x7d')
    match rest.drop name.length with
    | [] => refuse "malformed \\P or \\p sequence"
    | _ :: behind =>
      if name.isEmpty || !name.all fun c => c.isAlphanum || "_- &=:^".toList.contains c then
        refuse "malformed \\P or \\p sequence"
      else kindOf negated name behind
  | c :: rest =>
    if c.isAlpha then kindOf negated [c] rest else refuse "malformed \\P or \\p sequence"

/-! ### Sets -/

/-- The name between signs like colons behind an opening bracket, if there is one, and what is
behind the closing bracket. -/
def named? (sign : Char) : Chars → Option (Chars × Chars)
  | '\\' :: ']' :: rest => (named? sign rest).map fun (t, rest) => ('\\' :: ']' :: t, rest)
  | '\\' :: '\\' :: rest => (named? sign rest).map fun (t, rest) => ('\\' :: '\\' :: t, rest)
  | a :: b :: rest =>
    if a = sign && b = ']' then some ([], rest)
    else if a = ']' || (a = '[' && b = sign) then none
    else (named? sign (b :: rest)).map fun (t, rest) => (a :: t, rest)
  | _ => none

/-- What may come in a set. -/
inductive Member
  | symbol (c : Char)
  | kind (p : Kind)

def namedKind? (fold : Bool) : Chars → Except Chars (Option (Kind × Chars))
  | sign :: rest =>
    if sign = ':' || sign = '.' || sign = '=' then
      match named? sign rest with
      | none => .ok none
      | some (name, behind) =>
        if sign ≠ ':' then refuse "POSIX collating elements are not supported"
        else
          let negated : Bool := name.head? = some '^'
          match Kind.named? fold (if negated then name.drop 1 else name) with
          | some p => .ok (some (if negated then p.other else p, behind))
          | none => refuse "unknown POSIX class name"
    else .ok none
  | [] => .ok none

def escapedMember (f : Flags) : Chars → Read Member
  | [] => refuse "\\ at end of pattern"
  | c :: rest =>
    match Kind.ofLetter? c with
    | some p => .ok (.kind p, rest)
    | none =>
      if c = 'b' then .ok (.symbol '\x08', rest)
      else if c = 'N' then refuse "\\N is not supported in a class"
      else if c = 'p' || c = 'P' then (property (c = 'P') rest).map fun (p, rest) => (.kind p, rest)
      else if '1' ≤ c && c ≤ '7' then
        (octal f.wide (c :: rest)).map fun (c, rest) => (.symbol c, rest)
      else if c = 'g' || (c.isDigit && c ≠ '0') then .ok (.symbol c, rest)
      else
        match symbolOf? f.wide c rest with
        | .error e => .error e
        | .ok (some (c, rest)) => .ok (.symbol c, rest)
        | .ok none =>
          if "ABCGKRXZkz".toList.contains c then
            refuse "escape sequence is invalid in character class"
          else if "FLlUu".toList.contains c then
            refuse "PCRE2 does not support \\F, \\L, \\l, \\N\x7bname\x7d, \\U, or \\u"
          else refuse "unrecognized character follows \\"

/-- Where the reader of a set is. -/
inductive Range
  | none
  | possible (first : Char)
  | begun (first : Char)
  deriving DecidableEq

def isHyphenNext : Chars → Bool
  | '-' :: c :: _ => c ≠ ']'
  | _ => false

def badRange : String := "invalid range in character class"

def members (f : Flags) : (fuel : Nat) → (first quoting : Bool) → Range → Kind → Chars → Read Kind
  | 0, _, _, _, _, _ | _, _, _, _, _, [] => refuse "missing terminating ] for character class"
  | fuel + 1, first, quoting, range, p, c :: rest =>
    let symbol (x : Char) (rest : Chars) : Read Kind :=
      let with' (q : Kind) : Kind := fun y => p y || q y
      match range with
      | .begun a =>
        if x < a then refuse "range out of order in character class"
        else members f fuel false quoting .none (with' (Kind.range f.wide f.fold a x)) rest
      | _ => members f fuel false quoting (.possible x) (with' (Kind.literal f.wide f.fold x)) rest
    let kind (q : Kind) (rest : Chars) : Read Kind :=
      match range with
      | .begun _ => refuse badRange
      | _ =>
        if isHyphenNext rest then refuse badRange
        else members f fuel false quoting .none (fun y => p y || q y) rest
    if quoting then
      if c = '\\' && rest.head? = some 'E' then members f fuel first false range p (rest.drop 1)
      else symbol c rest
    else if f.verySpaced && (c = ' ' || c = '\t') then members f fuel first false range p rest
    else if c = ']' && !first then .ok (p, rest)
    else if c = '-' && isHyphenNext (c :: rest) then
      match range with
      | .possible a => members f fuel false false (.begun a) p rest
      | _ => symbol c rest
    else if c = '[' then
      match namedKind? f.fold rest with
      | .error e => .error e
      | .ok (some (q, rest)) => kind q rest
      | .ok none => symbol c rest
    else if c = '\\' then
      if rest.head? = some 'Q' then members f fuel first true range p (rest.drop 1)
      else if rest.head? = some 'E' then members f fuel first false range p (rest.drop 1)
      else
        match escapedMember f rest with
        | .error e => .error e
        | .ok (.symbol x, rest) => symbol x rest
        | .ok (.kind q, rest) => kind q rest
    else symbol c rest

def set (f : Flags) (t : Chars) : Read Kind :=
  let outside : Bool :=
    match t with
    | sign :: rest =>
      (sign = ':' || sign = '.' || sign = '=') && (named? sign rest).isSome
    | [] => false
  if outside then
    if t.head? = some ':' then refuse "POSIX named classes are supported only within a class"
    else refuse "POSIX collating elements are not supported"
  else
    let (negated, body) : Bool × Chars :=
      match t with
      | '^' :: rest => (true, rest)
      | t => (false, t)
    (members f (body.length + 1) true false .none (fun _ => false) body).map fun (p, rest) =>
      (if negated then Kind.other p else p, rest)

end PipelineShell.Userland.Backtracking
