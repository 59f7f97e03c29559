import PipelineShell.Text.Utf8

/-!
# Texts and the system

Between the bytes of the system and texts: a byte that is not UTF-8 is one of the surrogates U+DC80
to U+DCFF in a text. No other surrogate and no NUL can be given to the system.
-/

namespace PipelineShell

def Surrogate.isByte (half : Surrogate) : Bool := 0x480 ≤ half.1 && half.1 < 0x500

def Rune.stored : Rune → Bytes
  | .char c => Utf8.encodeChar c
  | .lone half => [(half.1 - 0x400).toUInt8]

namespace Text

def stored (t : Text) : Bytes := t.flatMap Rune.stored

def escape (b : UInt8) : Rune :=
  .lone ⟨0x400 + b.toNat, by have := b.toNat_lt; omega⟩

def ofStored (bytes : Bytes) : Text := go 0 [] bytes
where
  /-- The code points done so far are kept in reverse; `skip` counts the bytes that belong to the
  last of them. -/
  go (skip : Nat) (done : Text) : Bytes → Text
    | [] => done.reverse
    | b :: rest =>
      match skip with
      | skip + 1 => go skip done rest
      | 0 =>
        match Utf8.next b rest with
        | .ok (c, size) => go (size - 1) (c :: done) rest
        | .error _ => go 0 (escape b :: done) rest

def isFit (t : Text) : Bool :=
  (Utf8.unencodable? Surrogate.isByte 0 t).isNone && !t.contains '\x00'

example : ofStored [0x61, 0xc3, 0xa9, 0xe2, 0x82] =
    [.char 'a', .char 'é', .lone 0x4e2, .lone 0x482] := by rfl
example : stored [.char 'é', .lone 0x4ff] = [0xc3, 0xa9, 0xff] := by rfl

end Text
end PipelineShell
