import PipelineShell.Text.Basic

/-!
# Lists of characters

The decimal form of a number, and the lexicographic order.
-/

namespace PipelineShell.Chars

def ofNat (n : Nat) : Chars := Nat.toDigits 10 n

/-- The decimal digits of an integer, behind a minus sign when it is negative. -/
def ofInt : Int → Chars
  | .ofNat n => ofNat n
  | .negSucc n => '-' :: ofNat (n + 1)

def le : Chars → Chars → Bool
  | [], _ => true
  | _ :: _, [] => false
  | a :: s, b :: t => a < b || (a = b && le s t)

end PipelineShell.Chars
