import PipelineShell.Text.Basic

/-!
# Lines of a text

The lines of a text as `history -r` reads them from a file: every carriage return counts as a line
feed, and ten characters end a line.
-/

namespace PipelineShell.Text

/-- The text with each of the line ends `\r\n` and `\r` written as `\n`. -/
def unifyLineEnds : Text → Text := go []
where
  go (done : Text) : Text → Text
    | [] => done.reverse
    | .char '\r' :: .char '\n' :: rest => go (.char '\n' :: done) rest
    | .char '\r' :: rest => go (.char '\n' :: done) rest
    | c :: rest => go (c :: done) rest

/-- The characters at which a text is cut into lines, the carriage return apart. -/
def isBoundary (c : Rune) : Bool :=
  let n := c.toNat
  (0x0a ≤ n && n ≤ 0x0c) || (0x1c ≤ n && n ≤ 0x1e) || n = 0x85 || n = 0x2028 || n = 0x2029

/-- The lines of a text without carriage returns, each without its boundary. -/
def lines : Text → List Text := go [] []
where
  /-- The lines done so far and the characters of the open line are kept in reverse. -/
  go (done : List Text) (line : Text) : Text → List Text
    | [] => if line.isEmpty then done.reverse else (line.reverse :: done).reverse
    | c :: rest =>
      if isBoundary c then go (line.reverse :: done) [] rest else go done (c :: line) rest

example : lines "a\n\nb".runes = ["a".runes, [], "b".runes] := by decide
example : lines "a\n".runes = ["a".runes] := by decide
example : unifyLineEnds "a\r\n\rb".runes = "a\n\nb".runes := by decide

end PipelineShell.Text
