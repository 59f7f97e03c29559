import PipelineShell.Text.Basic
import PipelineShell.Text.Digit

/-!
# Reading whole numbers

`int` on a text: blanks around, a sign, digits of any script with single underscores between them,
at most 4300 digits.
-/

namespace PipelineShell.Text

/-- The characters that may surround a numeral: those with the Unicode property of white space. -/
def isBlank (c : Rune) : Bool :=
  let n := c.toNat
  (9 ≤ n && n ≤ 13) || n = 0x20 || n = 0x85 || n = 0xa0 || n = 0x1680 ||
    (0x2000 ≤ n && n ≤ 0x200a) || n = 0x2028 || n = 0x2029 || n = 0x202f || n = 0x205f ||
    n = 0x3000

namespace Numeral

/-- Why a text is not read as a whole number. -/
inductive Error
  | malformed
  | tooLong (digits : Nat)
  deriving DecidableEq, Repr

def maxDigits : Nat := 4300

def signed : Text → Bool × Text
  | .char '-' :: rest => (true, rest)
  | .char '+' :: rest => (false, rest)
  | t => (false, t)

def isDigitOrJoint (c : Rune) : Bool := c = '_' || (digitValue? c).isSome

/-- Whether every underscore of the run stands between two digits; the flag tells whether the
character before the run was a digit. -/
def wellJoined : Bool → Text → Bool
  | before, [] => before
  | before, c :: rest => if c = '_' then before && wellJoined false rest else wellJoined true rest

/-- The number written by a row of digit values, the most significant first. -/
def value (digits : List Nat) : Nat := digits.foldl (fun n d => 10 * n + d) 0

/-- Reads a whole number. An overlong run of digits is reported before anything wrong after it. -/
def read (t : Text) : Except Error Int :=
  let (negative, body) := signed (t.dropWhile isBlank)
  let run := body.takeWhile isDigitOrJoint
  let rest := body.dropWhile isDigitOrJoint
  let digits := run.filterMap digitValue?
  if !wellJoined false run then .error .malformed
  else if digits.length > maxDigits then .error (.tooLong digits.length)
  else if !rest.all isBlank then .error .malformed
  else .ok (if negative then -(value digits : Int) else (value digits : Int))

end Numeral

example : Numeral.read "  -1_0 ".runes = .ok (-10) := by rfl
example : Numeral.read "1__0".runes = .error .malformed := by rfl
example : Numeral.read "٣".runes = .ok 3 := by rfl
example : Numeral.read "+".runes = .error .malformed := by rfl

end PipelineShell.Text
