import PipelineShell.Text.Basic
import PipelineShell.Text.Printable

/-!
# Quoted texts

The quoted form in which messages show a text.
-/

namespace PipelineShell.Text

/-- The lower-case hexadecimal digits of `n`, exactly `width` of them. -/
def hex : (width : Nat) → (n : Nat) → Text
  | 0, _ => []
  | width + 1, n => hex width (n / 16) ++ [.char (Nat.digitChar (n % 16))]

theorem length_hex (width n : Nat) : (hex width n).length = width := by
  induction width generalizing n with
  | zero => rfl
  | succ w ih => simp [hex, ih]

/-- A double mark only for a text with single marks and no double one. -/
def quotationMark (t : Text) : Rune :=
  if t.contains '\'' && !t.contains '"' then '"' else '\''

def isShown : Rune → Bool
  | .char c => isPrintable c
  | .lone _ => false

def escapeRune (mark c : Rune) : Text :=
  if c = mark || c = '\\' then ['\\', c]
  else if c = '\n' then [.char '\\', .char 'n']
  else if c = '\r' then [.char '\\', .char 'r']
  else if c = '\t' then [.char '\\', .char 't']
  else if isShown c then [c]
  else if c.toNat < 0x100 then '\\' :: .char 'x' :: hex 2 c.toNat
  else if c.toNat < 0x10000 then '\\' :: .char 'u' :: hex 4 c.toNat
  else '\\' :: .char 'U' :: hex 8 c.toNat

def quoted (t : Text) : Text :=
  let mark := quotationMark t
  mark :: t.flatMap (escapeRune mark) ++ [mark]

example : quoted "it's".runes = "\"it's\"".runes := by decide +kernel
example : quoted "'\"".runes = "'\\'\"'".runes := by decide +kernel
example : quoted [.char '\x00', .char '\n', .char '\u200b'] = "'\\x00\\n\\u200b'".runes := by
  decide +kernel

end PipelineShell.Text
