import PipelineShell.Text.Chars
import PipelineShell.Text.System

/-!
# Bytes as characters

Each byte as the character with the same number.
-/

namespace PipelineShell.Octets

def ofBytes (bytes : Bytes) : Chars := bytes.map fun b => Char.ofNat b.toNat

def toBytes (octets : Chars) : Bytes := octets.map fun c => c.toNat.toUInt8

def ofChars (chars : Chars) : Chars := ofBytes (Utf8.encodeChars chars)

/-- The characters that bytes encode, or the bytes themselves if they encode none. -/
def toChars (octets : Chars) : Chars :=
  match Utf8.decode (toBytes octets) with
  | .ok chars => chars
  | .error _ => octets

def ofText (t : Text) : Chars := ofBytes (Text.stored t)

def toText (octets : Chars) : Text := Text.ofStored (toBytes octets)

end PipelineShell.Octets
