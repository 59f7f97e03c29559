import PipelineShell.Text.Basic
import PipelineShell.Text.Letter

/-!
# Classes of characters

The classes that patterns may name; in a single-byte locale they hold ASCII characters only.
-/

namespace PipelineShell.Text.Class

/-- Whether a character is a blank, or one that moves on like a blank. -/
def isSpace (c : Char) : Bool := c = ' ' || ('\t' ≤ c && c ≤ '\r')

def isGraph (c : Char) : Bool := '!' ≤ c && c ≤ '~'

def isHexDigit (c : Char) : Bool := c.isDigit || ('a' ≤ c && c ≤ 'f') || ('A' ≤ c && c ≤ 'F')

def isControl (c : Char) : Bool := c < ' ' || c = '\x7f'

def basic : List (Chars × (Char → Bool)) :=
  [("alnum".toList, Char.isAlphanum), ("alpha".toList, Char.isAlpha),
    ("blank".toList, fun c => c = ' ' || c = '\t'), ("cntrl".toList, isControl),
    ("digit".toList, Char.isDigit), ("graph".toList, isGraph), ("lower".toList, Char.isLower),
    ("print".toList, fun c => c = ' ' || isGraph c),
    ("punct".toList, fun c => isGraph c && !c.isAlphanum), ("space".toList, isSpace),
    ("upper".toList, Char.isUpper), ("xdigit".toList, isHexDigit)]

def isAnyControl (c : Char) : Bool :=
  isControl c || (0x80 ≤ c.toNat && c.toNat < 0xa0) || c.toNat = 0x2028 || c.toNat = 0x2029

def isLetterOrDigit (c : Char) : Bool := c.isDigit || Letter.isLetter c

def universal : List (Chars × (Char → Bool)) :=
  [("alnum".toList, isLetterOrDigit), ("alpha".toList, Letter.isLetter),
    ("blank".toList, fun c => c = '\t' || (Wide.isSpace c && c.toNat ≥ 0x20 && !isAnyControl c)),
    ("cntrl".toList, isAnyControl), ("digit".toList, Char.isDigit),
    ("graph".toList, fun c => Wide.isShown c && !Wide.isSpace c), ("lower".toList, Letter.isLower),
    ("print".toList, Wide.isShown), ("punct".toList, Letter.isMark),
    ("space".toList, Wide.isSpace), ("upper".toList, Letter.isUpper),
    ("xdigit".toList, isHexDigit)]

/-- The classes of the characters that there are; `wide` tells whether several bytes may encode
one. -/
def named (wide : Bool) : List (Chars × (Char → Bool)) := if wide then universal else basic

end PipelineShell.Text.Class
