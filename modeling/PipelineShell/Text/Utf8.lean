import PipelineShell.Text.Basic

/-!
# UTF-8

Strict encoding and decoding, with the first fault.
-/

namespace PipelineShell.Utf8

def encodeChar (c : Char) : Bytes :=
  let n := c.toNat
  if n < 0x80 then [n.toUInt8]
  else if n < 0x800 then [(0xc0 + n / 64).toUInt8, (0x80 + n % 64).toUInt8]
  else if n < 0x10000 then
    [(0xe0 + n / 4096).toUInt8, (0x80 + n / 64 % 64).toUInt8, (0x80 + n % 64).toUInt8]
  else
    [(0xf0 + n / 262144).toUInt8, (0x80 + n / 4096 % 64).toUInt8, (0x80 + n / 64 % 64).toUInt8,
      (0x80 + n % 64).toUInt8]

def encodeChars (chars : Chars) : Bytes := chars.flatMap encodeChar

/-- Halves of surrogate pairs in a row that are not encoded: the position of the first, which one it
is, and how many there are. -/
structure Unencodable where
  position : Nat
  first : Surrogate
  count : Nat
  deriving DecidableEq, Repr

/-- The first halves of surrogate pairs in a text that are not encoded, from the first that is not
`allowed` up to the end of their row; the text stands at a position. -/
def unencodable? (allowed : Surrogate → Bool) (position : Nat) : Text → Option Unencodable
  | [] => none
  | .char _ :: rest => unencodable? allowed (position + 1) rest
  | .lone half :: rest =>
    if allowed half then unencodable? allowed (position + 1) rest
    else some ⟨position, half, (rest.takeWhile Rune.isLone).length + 1⟩

/-- The bytes of a text, unless there is something in it that has none. -/
def encode (t : Text) : Except Unencodable Bytes :=
  match unencodable? (fun _ => false) 0 t with
  | some e => .error e
  | none => .ok (encodeChars (Text.chars t))

/-- What is wrong with the faulty bytes. -/
inductive Fault
  | start
  | continuation
  | ending
  deriving DecidableEq, Repr

/-- The first fault: its position, the faulty bytes, and what is wrong with them. -/
structure Error where
  position : Nat
  bytes : Bytes
  fault : Fault
  deriving DecidableEq, Repr

/-- Whether a byte can be the second or a later one of a character. -/
def isContinuation (b : UInt8) : Bool := 0x80 ≤ b && b ≤ 0xbf

/-- Whether a byte can be the second one after the given first one of three or four. The narrower
ranges keep out overlong forms, surrogates and what lies beyond the last code point. -/
def isSecond (first b : UInt8) : Bool :=
  isContinuation b &&
    !(first = 0xe0 && b < 0xa0) && !(first = 0xed && b ≥ 0xa0) &&
    !(first = 0xf0 && b < 0x90) && !(first = 0xf4 && b ≥ 0x90)

def low (b : UInt8) : Nat := b.toNat % 64

/-- Takes the first character off a row of bytes, with the number of bytes it took; or tells how
many bytes are faulty and why. -/
def next (first : UInt8) (rest : Bytes) : Except (Nat × Fault) (Char × Nat) :=
  let n := first.toNat
  if n < 0x80 then .ok (Char.ofNat n, 1)
  else if n < 0xc2 then .error (1, .start)
  else if n < 0xe0 then
    match rest with
    | [] => .error (1, .ending)
    | b :: _ =>
      if isContinuation b then .ok (Char.ofNat (n % 32 * 64 + low b), 2)
      else .error (1, .continuation)
  else if n < 0xf0 then
    match rest with
    | [] => .error (1, .ending)
    | b :: rest =>
      if !isSecond first b then .error (1, .continuation)
      else
        match rest with
        | [] => .error (2, .ending)
        | c :: _ =>
          if isContinuation c then .ok (Char.ofNat (n % 16 * 4096 + low b * 64 + low c), 3)
          else .error (2, .continuation)
  else if n < 0xf5 then
    match rest with
    | [] => .error (1, .ending)
    | b :: rest =>
      if !isSecond first b then .error (1, .continuation)
      else
        match rest with
        | [] => .error (2, .ending)
        | c :: rest =>
          if !isContinuation c then .error (2, .continuation)
          else
            match rest with
            | [] => .error (3, .ending)
            | d :: _ =>
              if isContinuation d then
                .ok (Char.ofNat (n % 8 * 262144 + low b * 4096 + low c * 64 + low d), 4)
              else .error (3, .continuation)
  else .error (1, .start)

def decode (bytes : Bytes) : Except Error Chars := go 0 0 [] bytes
where
  /-- The characters done so far are kept in reverse; `skip` counts the bytes that belong to the
  last of them. -/
  go (position skip : Nat) (done : Chars) : Bytes → Except Error Chars
    | [] => .ok done.reverse
    | b :: rest =>
      match skip with
      | skip + 1 => go (position + 1) skip done rest
      | 0 =>
        match next b rest with
        | .ok (c, size) => go (position + 1) (size - 1) (c :: done) rest
        | .error (size, fault) => .error ⟨position, (b :: rest).take size, fault⟩

example : encode [.char 'a', .lone 0x4ff, .lone 0] = .error ⟨1, 0x4ff, 2⟩ := by rfl
example : decode (encodeChars "aé€😀".toList) = .ok "aé€😀".toList := by cbv
example : decode [0x61, 0xff] = .error ⟨1, [0xff], .start⟩ := by rfl
example : decode [0xe2, 0x82] = .error ⟨0, [0xe2, 0x82], .ending⟩ := by rfl
example : decode [0xed, 0xa0, 0x80] = .error ⟨0, [0xed], .continuation⟩ := by rfl

end PipelineShell.Utf8
