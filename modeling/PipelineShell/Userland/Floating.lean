import PipelineShell.Text.Chars

/-!
# Floating-point numbers

Reads decimal and hexadecimal numerals exactly, rounds them to a binary format, half to even, and
writes them in the three forms of `printf`.
-/

namespace PipelineShell.Userland.Floating

/-- A number without rounding: a sign, and a numerator over a denominator that is not zero. -/
inductive Real
  | undefined (negative : Bool) (payload : Nat)
  | infinite (negative : Bool)
  | finite (negative : Bool) (num den : Nat)
  deriving DecidableEq, Repr

/-- Which numbers can be held: the number of binary digits, the exponent of the last digit of the
smallest numbers, and the exponent that no number reaches. -/
structure Format where
  digits : Nat
  least : Int
  limit : Nat
  deriving DecidableEq, Repr

def Format.double : Format := ⟨53, -1074, 1024⟩

def Format.extended : Format := ⟨64, -16445, 16384⟩

def roundDiv (num den : Nat) : Nat :=
  let q := num / den
  let r := num % den
  if 2 * r > den || (2 * r = den && q % 2 = 1) then q + 1 else q

def scale (base : Nat) (exponent : Int) (num den : Nat) : Nat × Nat :=
  match exponent with
  | .ofNat n => (num * Nat.pow base n, den)
  | .negSucc n => (num, den * Nat.pow base (n + 1))

def Format.nearest (f : Format) (num den : Nat) : Nat × Int :=
  let size : Int := (Nat.log2 num : Int) - Nat.log2 den
  let fits (e : Int) : Bool :=
    let (n, d) := scale 2 (-e) num den
    n < d * Nat.pow 2 f.digits
  let e := size - f.digits
  let e := if fits e then e else e + 1
  let e := if fits e then e else e + 1
  let e := max e f.least
  let (n, d) := scale 2 (-e) num den
  (roundDiv n d, e)

def Format.round (f : Format) : Real → Real × Bool
  | .finite negative num den =>
    if num = 0 then (.finite negative 0 1, false)
    else
      let (m, e) := f.nearest num den
      let (n, d) := scale 2 e m 1
      if n ≥ d * Nat.pow 2 f.limit then (.infinite negative, true)
      else
        let tiny : Bool := m < Nat.pow 2 (f.digits - 1)
        (.finite negative n d, tiny && n * den ≠ num * d)
  | r => (r, false)

def digitValue? (c : Char) : Option Nat :=
  if c.isDigit then some (c.toNat - 48)
  else if 'a' ≤ c && c ≤ 'f' then some (c.toNat - 87)
  else if 'A' ≤ c && c ≤ 'F' then some (c.toNat - 55)
  else none

def valueOf (base : Nat) (digits : Chars) : Nat :=
  digits.foldl (fun n c => base * n + (digitValue? c).getD 0) 0

def exponentLimit : Nat := 20000

def exponent (letter : Char) (t : Chars) : Int × Chars :=
  match t with
  | c :: rest =>
    if c.toLower ≠ letter then (0, t)
    else
      let (sign, digits) : Int × Chars :=
        match rest with
        | '-' :: rest => (-1, rest)
        | '+' :: rest => (1, rest)
        | rest => (1, rest)
      let run := digits.takeWhile Char.isDigit
      if run.isEmpty then (0, t)
      else (sign * (min (valueOf 10 run) exponentLimit : Nat), digits.drop run.length)
  | [] => (0, t)

def payloadLimit : Nat := 0x4000000000000000

/-- The payload in parentheses at the beginning of a text, and what is behind it; zero if there is
none. -/
def readPayload (t : Chars) : Nat × Chars :=
  match t with
  | '(' :: rest =>
    let name := rest.takeWhile fun c => c.isAlphanum || c = '_'
    match rest.drop name.length with
    | ')' :: after =>
      let lower := name.map Char.toLower
      let (base, digits) : Nat × Chars :=
        match lower with
        | '0' :: 'x' :: digits => (16, digits)
        | '0' :: digits => (8, digits)
        | digits => (10, digits)
      let isDigit (c : Char) : Bool := ((digitValue? c).map fun v => decide (v < base)).getD false
      (if digits.all isDigit then valueOf base digits % payloadLimit else 0, after)
    | _ => (0, t)
  | _ => (0, t)

def begins (word : String) (t : Chars) : Bool := word.toList.isPrefixOf (t.map Char.toLower)

def read (t : Chars) : Option (Real × Chars) :=
  let t := t.dropWhile fun c => c = ' ' || ('\t' ≤ c && c ≤ '\r')
  let (negative, t) : Bool × Chars :=
    match t with
    | '-' :: rest => (true, rest)
    | '+' :: rest => (false, rest)
    | t => (false, t)
  let digitAt (t : Chars) : Bool := (t.head?.bind digitValue?).isSome
  let isHex :=
    begins "0x" t && (digitAt (t.drop 2) || ((t.drop 2).head? = some '.' && digitAt (t.drop 3)))
  if begins "infinity" t then some (.infinite negative, t.drop 8)
  else if begins "inf" t then some (.infinite negative, t.drop 3)
  else if begins "nan" t then
    let (payload, rest) := readPayload (t.drop 3)
    some (.undefined negative payload, rest)
  else
    let body := if isHex then t.drop 2 else t
    let isMember (c : Char) : Bool := if isHex then (digitValue? c).isSome else c.isDigit
    let whole := body.takeWhile isMember
    let rest := body.drop whole.length
    let fraction : Chars :=
      match rest with
      | '.' :: more => more.takeWhile isMember
      | _ => []
    let rest :=
      if rest.head? = some '.' then rest.drop (fraction.length + 1) else rest
    if (whole ++ fraction).isEmpty then none
    else if isHex then
      let (e, rest) := exponent 'p' rest
      let (n, d) := scale 2 (e - 4 * fraction.length) (valueOf 16 (whole ++ fraction)) 1
      some (.finite negative n d, rest)
    else
      let (e, rest) := exponent 'e' rest
      let (n, d) := scale 10 (e - fraction.length) (valueOf 10 (whole ++ fraction)) 1
      some (.finite negative n d, rest)

def pointed (places : Nat) (keepPoint : Bool) (n : Nat) : Chars :=
  let digits := Chars.ofNat n
  let digits := List.replicate (places + 1 - digits.length) '0' ++ digits
  let whole := digits.take (digits.length - places)
  whole ++ (if places = 0 then (if keepPoint then ['.'] else []) else '.' :: digits.drop whole.length)

def fixed (places : Nat) (keepPoint : Bool) (num den : Nat) : Chars :=
  pointed places keepPoint (roundDiv (num * Nat.pow 10 places) den)

def magnitude (num den : Nat) : Int :=
  let guess : Int := (Chars.ofNat num).length - (Chars.ofNat den).length
  let (n, d) := scale 10 (-guess) num den
  if n ≥ d then guess else guess - 1

/-- The first digits of a number, so many behind the first one, and the power of ten of the
first. -/
def leading (places : Nat) (num den : Nat) : Nat × Int :=
  if num = 0 then (0, 0)
  else
    let e := magnitude num den
    let (n, d) := scale 10 (places - e) num den
    let m := roundDiv n d
    if m ≥ Nat.pow 10 (places + 1) then (m / 10, e + 1) else (m, e)

def exponentText (digits : Nat) (e : Int) : Chars :=
  let n := Chars.ofNat e.natAbs
  (if e < 0 then '-' else '+') :: List.replicate (digits - n.length) '0' ++ n

def scientific (places : Nat) (keepPoint : Bool) (num den : Nat) : Chars :=
  let (m, e) := leading places num den
  pointed places keepPoint m ++ 'e' :: exponentText 2 e

/-- A text without the zeros behind a point at its end, and without the point if nothing else is
behind it. -/
def withoutZeros (t : Chars) : Chars :=
  if !t.contains '.' then t
  else
    match t.reverse.dropWhile (· = '0') with
    | '.' :: rest => rest.reverse
    | rest => rest.reverse

def general (precision : Nat) (keepZeros : Bool) (num den : Nat) : Chars :=
  let p := max precision 1
  let (_, e) := leading (p - 1) num den
  if -4 ≤ e && e < p then
    let t := fixed (p - 1 - e).toNat keepZeros num den
    if keepZeros then t else withoutZeros t
  else
    let (m, e) := leading (p - 1) num den
    let t := pointed (p - 1) keepZeros m
    (if keepZeros then t else withoutZeros t) ++ 'e' :: exponentText 2 e

def hexDigits (n : Nat) : Chars := Nat.toDigits 16 n

def hexadecimal (f : Format) (places : Option Nat) (keepPoint : Bool) (num den : Nat) : Chars :=
  let lead := if f.digits % 4 = 0 then 3 else 0
  let count := (f.digits - 1 - lead) / 4
  if num = 0 then
    let p := places.getD 0
    "0x0".toList ++ (if p > 0 then '.' :: List.replicate p '0' else if keepPoint then ['.'] else []) ++
      "p+0".toList
  else
    let (m, e) := f.nearest num den
    let top := Nat.log2 m
    let width := 4 * count + lead
    let (m, e) : Nat × Int :=
      if top ≤ width then (m * Nat.pow 2 (width - top), e - (width - top : Nat)) else (m, e)
    let p := places.getD count
    let m :=
      if p < count then roundDiv m (Nat.pow 16 (count - p)) else m * Nat.pow 16 (p - count)
    let digits := hexDigits m
    let whole := digits.take (digits.length - p)
    let fraction := digits.drop whole.length
    let fraction :=
      if places.isNone then (fraction.reverse.dropWhile (· = '0')).reverse else fraction
    let power := e + 4 * count
    let n := Chars.ofNat power.natAbs
    "0x".toList ++ whole ++
      (if fraction.isEmpty then (if keepPoint then ['.'] else []) else '.' :: fraction) ++
      'p' :: (if power < 0 then '-' else '+') :: n

end PipelineShell.Userland.Floating
