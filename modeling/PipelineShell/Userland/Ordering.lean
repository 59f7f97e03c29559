import PipelineShell.Text.Octets
import PipelineShell.Userland.Floating

/-!
# Ways to compare texts

By bytes, by decimal numbers, with units or exponents, by month names and by versions.
-/

namespace PipelineShell.Userland.Ordering

def isBlank (b : UInt8) : Bool := b = 32 || b = 9 || b = 10

def isDigit (b : UInt8) : Bool := 48 ≤ b && b ≤ 57

def isLetter (b : UInt8) : Bool := (65 ≤ b && b ≤ 90) || (97 ≤ b && b ≤ 122)

def upper (b : UInt8) : UInt8 := if 97 ≤ b && b ≤ 122 then b - 32 else b

def bytes : Bytes → Bytes → Ordering
  | [], [] => .eq
  | [], _ :: _ => .lt
  | _ :: _, [] => .gt
  | a :: s, b :: t => if a < b then .lt else if b < a then .gt else bytes s t

/-- A decimal number: whether it is negative, the digits before the point without leading zeros,
and those after it without trailing ones. -/
structure Number where
  negative : Bool
  whole : Bytes
  fraction : Bytes

def number (t : Bytes) : Number :=
  let (negative, t) : Bool × Bytes :=
    match t with
    | 45 :: rest => (true, rest)
    | t => (false, t)
  let digits := t.takeWhile isDigit
  let fraction : Bytes :=
    match t.drop digits.length with
    | 46 :: rest => rest.takeWhile isDigit
    | _ => []
  ⟨negative, digits.dropWhile (· = 48), (fraction.reverse.dropWhile (· = 48)).reverse⟩

def Number.isZero (n : Number) : Bool := n.whole.isEmpty && n.fraction.isEmpty

def Number.compareSize (a b : Number) : Ordering :=
  if a.whole.length ≠ b.whole.length then compare a.whole.length b.whole.length
  else
    match bytes a.whole b.whole with
    | .eq => bytes a.fraction b.fraction
    | o => o

def Number.compare (a b : Number) : Ordering :=
  match a.negative && !a.isZero, b.negative && !b.isZero with
  | true, true => b.compareSize a
  | true, false => .lt
  | false, true => .gt
  | false, false => a.compareSize b

def unitRank (b : UInt8) : Int :=
  if b = 107 then 1
  else
    match "KMGTPEZY".toList.findIdx? (·.toNat = b.toNat) with
    | some i => i + 1
    | none => 0

def unitOf (t : Bytes) : Int :=
  let (sign, t) : Int × Bytes :=
    match t with
    | 45 :: rest => (-1, rest)
    | t => (1, t)
  let digits := t.takeWhile isDigit
  let rest := t.drop digits.length
  let fraction : Bytes :=
    match rest with
    | 46 :: more => more.takeWhile isDigit
    | _ => []
  let rest := if rest.head? = some 46 then rest.drop (fraction.length + 1) else rest
  if (digits ++ fraction).all (· = 48) then 0
  else sign * ((rest.head?.map unitRank).getD 0)

def numberLength (t : Bytes) : Nat × Bool :=
  let (sign, t) : Nat × Bytes :=
    match t with
    | 45 :: rest => (1, rest)
    | t => (0, t)
  let digits := (t.takeWhile isDigit).length
  match t.drop digits with
  | 46 :: rest =>
    let places := (rest.takeWhile isDigit).length
    (sign + digits + 1 + places, digits + places > 0)
  | _ => (sign + digits, digits > 0)

def monthLength : Nat := 3

def month (t : Bytes) : Nat :=
  let name := ((t.dropWhile isBlank).take monthLength).map upper
  let names := ["JAN", "FEB", "MAR", "APR", "MAY", "JUN", "JUL", "AUG", "SEP", "OCT", "NOV", "DEC"]
  match names.findIdx? fun n => n.toUTF8.toList = name with
  | some i => i + 1
  | none => 0

/-- The number in scientific notation that a text begins with, so far as ten bytes can hold it; none
if there is none. -/
def scientific (t : Bytes) : Option Floating.Real :=
  (Floating.read (Octets.ofBytes t)).map fun r => (Floating.Format.extended.round r.1).1

def scientificLength (t : Bytes) : Nat :=
  match Floating.read (Octets.ofBytes t) with
  | some (_, rest) => t.length - rest.length
  | none => 0

def compareUndefined (negative : Bool) (payload : Nat) (negative' : Bool) (payload' : Nat) :
    Ordering :=
  let digits (n : Nat) : Bytes := (List.range 8).map fun i => (n / Nat.pow 256 i % 256).toUInt8
  match bytes (digits payload) (digits payload') with
  | .eq => compare negative.toNat negative'.toNat
  | o => o

def rank : Option Floating.Real → Nat
  | none => 0
  | some (.undefined _ _) => 1
  | some (.infinite true) => 2
  | some (.finite _ _ _) => 3
  | some (.infinite false) => 4

def compareReals (a b : Option Floating.Real) : Ordering :=
  match a, b with
  | some (.finite s m c), some (.finite t n d) =>
    let signed (negative : Bool) (n : Nat) : Int := if negative then -n else n
    compare (signed s m * d) (signed t n * c)
  | some (.undefined s p), some (.undefined t q) => compareUndefined s p t q
  | a, b => compare (rank a) (rank b)

def versionRank : Bytes → Int
  | [] => -1
  | b :: _ =>
    if isDigit b then 0
    else if isLetter b then b.toNat
    else if b = 126 then -2
    else b.toNat + 256

def versionRuns : (fuel : Nat) → Bytes → Bytes → Ordering
  | 0, _, _ => .eq
  | _ + 1, [], [] => .eq
  | fuel + 1, s, t =>
    let startsPlain (r : Bytes) : Bool := (r.head?.map (!isDigit ·)).getD false
    if startsPlain s || startsPlain t then
      match compare (versionRank s) (versionRank t) with
      | .eq => versionRuns fuel (s.drop 1) (t.drop 1)
      | o => o
    else
      let m := (s.takeWhile isDigit).dropWhile (· = 48)
      let n := (t.takeWhile isDigit).dropWhile (· = 48)
      if m.length ≠ n.length then compare m.length n.length
      else
        match bytes m n with
        | .eq => versionRuns fuel (s.dropWhile isDigit) (t.dropWhile isDigit)
        | o => o

def suffixLength : Bytes → Nat
  | 46 :: b :: rest =>
    if isLetter b || b = 126 then
      2 + (rest.takeWhile fun b => isLetter b || isDigit b || b = 126).length
    else 0
  | _ => 0

def isSuffixes : (fuel : Nat) → Bytes → Bool
  | 0, t => t.isEmpty
  | fuel + 1, t =>
    t.isEmpty || (suffixLength t ≠ 0 && isSuffixes fuel (t.drop (suffixLength t)))

def withoutSuffixes (t : Bytes) : Bytes :=
  match (List.range t.length).find? fun i => isSuffixes t.length (t.drop i) with
  | some i => t.take i
  | none => t

def version (s t : Bytes) : Ordering :=
  let fuel := s.length + t.length + 2
  let dots (r : Bytes) : Nat :=
    if r.isEmpty then 0
    else if r.head? ≠ some 46 then 4
    else if r = [46] then 1
    else if r = [46, 46] then 2
    else 3
  if dots s ≠ dots t || dots s < 3 then compare (dots s) (dots t)
  else
    match versionRuns fuel (withoutSuffixes s) (withoutSuffixes t) with
    | .eq => versionRuns fuel s t
    | o => o

end PipelineShell.Userland.Ordering
