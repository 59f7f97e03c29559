import PipelineShell.Text.Class
import PipelineShell.Text.Octets

/-!
# The symbols of lines

Characters, and bytes that are not UTF-8, which match nothing but themselves.
-/

namespace PipelineShell.Userland.Regex

def firstUndecoded : Nat := 0x10ff80

def undecoded (b : UInt8) : Char := Char.ofNat (firstUndecoded - 128 + b.toNat)

def isDecoded (c : Char) : Bool := c.toNat < firstUndecoded

/-- Adds the characters of some bytes to others, which are kept in reverse; `skip` counts the bytes
that have been taken in already. -/
def decodeOnto (done : Chars) : (skip : Nat) → Bytes → Chars
  | _, [] => done
  | skip + 1, _ :: rest => decodeOnto done skip rest
  | 0, b :: rest =>
    if b < 128 then decodeOnto (Char.ofNat b.toNat :: done) 0 rest
    else
      match Utf8.next b (rest.take 3) with
      | .ok (c, size) => decodeOnto (c :: done) (size - 1) rest
      | .error _ => decodeOnto (undecoded b :: done) 0 rest

/-- The symbols of some bytes; `wide` tells whether several bytes may encode a character. -/
def symbols (wide : Bool) (data : Bytes) : Chars :=
  if wide then (decodeOnto [] 0 data).reverse else Octets.ofBytes data

def bytesOf (c : Char) : Bytes :=
  if isDecoded c then Utf8.encodeChar c else [(c.toNat - (firstUndecoded - 128)).toUInt8]

def bytes (wide : Bool) (t : Chars) : Bytes := if wide then t.flatMap bytesOf else Octets.toBytes t

def isWord (wide : Bool) (c : Char) : Bool :=
  if c.toNat < 128 then c.isAlphanum || c = '_'
  else wide && isDecoded c && Text.Letter.isLetter c

/-- Whether a symbol belongs to words for a place that is asked for. There a byte that is part of no
character counts as the character with its number. -/
def isWordNear (wide : Bool) (c : Char) : Bool :=
  if isDecoded c then isWord wide c
  else Text.Letter.isLetter (Char.ofNat (c.toNat - (firstUndecoded - 128)))

def upper (wide : Bool) (c : Char) : Char := if wide then Text.Letter.upper c else c.toUpper

def lower (wide : Bool) (c : Char) : Char := if wide then Text.Letter.lower c else c.toLower

/-- What is next to a place. -/
inductive Side
  | edge
  | word
  | other
  deriving DecidableEq, Repr

def side (wide : Bool) : Option Char → Side
  | none => .edge
  | some c => if isWordNear wide c then .word else .other

/-- A place that is asked for without taking anything. -/
inductive Spot
  | lineStart
  | lineEnd
  | wordStart
  | wordEnd
  | wordEdge
  | noWordEdge
  deriving DecidableEq, Repr

def Spot.holds (before after : Side) : Spot → Bool
  | .lineStart => before = .edge
  | .lineEnd => after = .edge
  | .wordStart => before ≠ .word && after = .word
  | .wordEnd => before = .word && after ≠ .word
  | .wordEdge => decide (before = .word) != decide (after = .word)
  | .noWordEdge => decide (before = .word) == decide (after = .word)

end PipelineShell.Userland.Regex
