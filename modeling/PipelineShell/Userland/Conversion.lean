import PipelineShell.Userland.Floating

/-!
# Conversions of formats

A conversion says how a value is written: in which form, how wide at least, how precise, and with
what in place of a missing sign or digit.
-/

namespace PipelineShell.Userland

/-- How a value is to be written. -/
structure Conversion where
  flags : Chars := []
  width : Nat := 0
  precision : Option Nat := none
  letter : Char
  deriving DecidableEq, Repr

namespace Conversion

def has (c : Conversion) (flag : Char) : Bool := c.flags.contains flag

/-- Fills a text up to the width; with `zeros`, between what it begins with and the rest. -/
def pad (c : Conversion) (zeros : Bool) (start body : Chars) : Chars :=
  let missing := c.width - (start.length + body.length)
  if c.has '-' then start ++ body ++ List.replicate missing ' '
  else if zeros && c.has '0' then start ++ List.replicate missing '0' ++ body
  else List.replicate missing ' ' ++ start ++ body

def sign (c : Conversion) (negative : Bool) : Chars :=
  if negative then ['-'] else if c.has '+' then ['+'] else if c.has ' ' then [' '] else []

def text (c : Conversion) (t : Chars) : Chars :=
  c.pad false [] (match c.precision with
    | some n => t.take n
    | none => t)

def char (c : Conversion) (x : Char) : Chars := c.pad false [] [x]

def digits (c : Conversion) (base n : Nat) : Chars :=
  let digits := if n = 0 then [] else Nat.toDigits base n
  let least := c.precision.getD 1
  List.replicate (least - digits.length) '0' ++ digits

def integer (c : Conversion) (n : Int) : Chars :=
  c.pad c.precision.isNone (c.sign (n < 0)) (c.digits 10 n.natAbs)

def natural (c : Conversion) (n : Nat) : Chars :=
  let upper (t : Chars) : Chars := if c.letter = 'X' then t.map Char.toUpper else t
  let base := if c.letter = 'o' then 8 else if c.letter = 'u' then 10 else 16
  let body := c.digits base n
  let body :=
    if c.letter = 'o' && c.has '#' && body.head? ≠ some '0' then '0' :: body else body
  let start := if base = 16 && c.has '#' && n ≠ 0 then ['0', c.letter] else []
  c.pad c.precision.isNone start (upper body)

def floating (c : Conversion) (f : Floating.Format) (r : Floating.Real) : Chars :=
  let upper (t : Chars) : Chars := if c.letter.isUpper then t.map Char.toUpper else t
  let word (negative : Bool) (t : String) : Chars :=
    c.pad false (c.sign negative) (upper t.toList)
  match r with
  | .undefined negative _ => word negative "nan"
  | .infinite negative => word negative "inf"
  | .finite negative num den =>
    let places := c.precision.getD 6
    let body :=
      match c.letter.toLower with
      | 'e' => Floating.scientific places (c.has '#') num den
      | 'f' => Floating.fixed places (c.has '#') num den
      | 'g' => Floating.general places (c.has '#') num den
      | _ => Floating.hexadecimal f c.precision (c.has '#') num den
    if c.letter.toLower = 'a' then
      c.pad true (c.sign negative ++ upper "0x".toList) (upper (body.drop 2))
    else c.pad true (c.sign negative) (upper body)

end Conversion
end PipelineShell.Userland
