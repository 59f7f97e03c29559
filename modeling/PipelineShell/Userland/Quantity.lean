import PipelineShell.Userland.Basic

/-!
# Quantities

Decimal numbers with a unit: powers of 1024 (`K`, `KiB`), powers of 1000 (`KB`), and `b` for 512.
-/

namespace PipelineShell.Userland.Quantity

def greatest : Nat := 0xffffffffffffffff

/-- How a text is read as a quantity. -/
inductive Reading
  | quantity (n : Nat)
  | tooLarge
  | malformed
  deriving DecidableEq, Repr

def power? (c : Char) : Option Nat :=
  match c with
  | 'k' | 'K' => some 1
  | 'M' | 'm' => some 2
  | 'G' => some 3
  | 'T' => some 4
  | 'P' => some 5
  | 'E' => some 6
  | 'Z' => some 7
  | 'Y' => some 8
  | _ => none

def unit? : Chars → Option Nat
  | [] => some 1
  | ['b'] => some 512
  | [c] => (power? c).map (Nat.pow 1024)
  | [c, 'B'] | [c, 'D'] => (power? c).map (Nat.pow 1000)
  | [c, 'i', 'B'] => (power? c).map (Nat.pow 1024)
  | _ => none

def read (t : Chars) : Reading :=
  let t := t.dropWhile fun c => c = ' ' || ('\t' ≤ c && c ≤ '\r')
  let t := if t.head? = some '+' && ((t.drop 1).head?.map Char.isDigit).getD false then t.drop 1 else t
  let digits := t.takeWhile Char.isDigit
  let unit := t.drop digits.length
  if digits.isEmpty && (unit.isEmpty || unit.head? = some '-') then .malformed
  else
    match unit? unit with
    | none => .malformed
    | some u =>
      let n := (if digits.isEmpty then 1 else decimal digits) * u
      if n > greatest then .tooLarge else .quantity n

end PipelineShell.Userland.Quantity
