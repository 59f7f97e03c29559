import PipelineShell.Userland.Conversion
import PipelineShell.Userland.Options
import PipelineShell.Userland.Quoting

/-!
# `printf`

Escapes and conversions of a format, which is used again as long as there are arguments.
-/

namespace PipelineShell.Userland.Printf

/-- Up to `count` digits in a base, and what follows them. -/
def number (base count : Nat) (t : Chars) : Nat × Chars :=
  let digits := (t.take count).takeWhile fun c =>
    ((Floating.digitValue? c).map (decide <| · < base)).getD false
  (Floating.valueOf base digits, t.drop digits.length)

def octet (n : Nat) : Char := Char.ofNat (n % 256)

/-- A whole number written in the way of a program: where it ends, and whether it was out of
range. -/
structure Whole where
  value : Int
  rest : Chars
  found : Bool

/-- Reads a whole number: decimal, octal behind a zero, or hexadecimal behind `0x`. -/
def readWhole (t : Chars) : Whole :=
  let body := t.dropWhile fun c => c = ' ' || ('\t' ≤ c && c ≤ '\r')
  let (negative, body) : Bool × Chars :=
    match body with
    | '-' :: rest => (true, rest)
    | '+' :: rest => (false, rest)
    | body => (false, body)
  let isHex := Floating.begins "0x" body &&
    ((body.drop 2).head?.bind Floating.digitValue?).isSome
  let (base, body) : Nat × Chars :=
    if isHex then (16, body.drop 2) else if body.head? = some '0' then (8, body) else (10, body)
  let (n, rest) := number base body.length body
  if rest.length = body.length then ⟨0, t, false⟩
  else ⟨if negative then -n else n, rest, true⟩

/-- What a print is about to do: its output so far in reverse, and whether something was wrong. -/
structure Print where
  written : List (Output × Bytes) := []
  failed : Bool := false
  ended : Bool := false

namespace Print

def put (p : Print) (t : Chars) : Print :=
  if p.ended then p else { p with written := (.stdout, Octets.toBytes t) :: p.written }

def complain (p : Print) (c : Call) (message : Chars) : Print :=
  if p.ended then p else { p with written := c.complaint message :: p.written }

def fail (p : Print) (c : Call) (message : Chars) : Print :=
  { p.complain c message with failed := true }

def abort (p : Print) (c : Call) (message : Chars) : Print :=
  { p.fail c message with ended := true }

end Print

def checked (c : Call) (p : Print) (arg rest : Chars) (found tooLarge : Bool) : Print :=
  if tooLarge then p.fail c (Quoting.phrase arg ++ ": Numerical result out of range".toList)
  else if rest.isEmpty then p
  else if found then p.fail c (Quoting.phrase arg ++ ": value not completely converted".toList)
  else p.fail c (Quoting.phrase arg ++ ": expected a numeric value".toList)

def quotedCode (c : Call) (p : Print) (arg : Chars) : Option (Nat × Print) :=
  match arg with
  | q :: x :: rest =>
    if q = '\'' || q = '"' then
      let (x, rest) : Nat × Chars :=
        match if c.isUtf8 then Utf8.next x.toNat.toUInt8 (Octets.toBytes (rest.take 3))
          else .ok (x, 1) with
        | .ok (d, size) => (d.toNat, rest.drop (size - 1))
        | .error _ => (x.toNat, rest)
      let p :=
        if rest.isEmpty || c.isOrdered then p
        else
          p.complain c ("warning: ".toList ++ rest ++
            ": character(s) following character constant have been ignored".toList)
      some (x, p)
    else none
  | _ => none

def signed (c : Call) (p : Print) (arg : Chars) : Int × Print :=
  match quotedCode c p arg with
  | some (n, p) => (n, p)
  | none =>
    let w := readWhole arg
    let value := max (-0x8000000000000000) (min 0x7fffffffffffffff w.value)
    (value, checked c p arg w.rest w.found (value ≠ w.value))

def unsigned (c : Call) (p : Print) (arg : Chars) : Nat × Print :=
  match quotedCode c p arg with
  | some (n, p) => (n, p)
  | none =>
    let w := readWhole arg
    let tooLarge : Bool := w.value.natAbs ≥ 0x10000000000000000
    let value := if tooLarge then 0xffffffffffffffff else (w.value % 0x10000000000000000).toNat
    (value, checked c p arg w.rest w.found tooLarge)

def real (c : Call) (p : Print) (arg : Chars) : Floating.Real × Print :=
  match quotedCode c p arg with
  | some (n, p) => (.finite false n 1, p)
  | none =>
    match Floating.read arg with
    | none => (.finite false 0 1, checked c p arg arg false false)
    | some (r, rest) =>
      let (r, outOfRange) := Floating.Format.extended.round r
      (r, checked c p arg rest true outOfRange)

def isUniversal (n : Nat) : Bool :=
  !((n ≤ 0x9f && n ≠ 0x24 && n ≠ 0x40 && n ≠ 0x60) || (0xd800 ≤ n && n ≤ 0xdfff))

def hexText (width n : Nat) : Chars :=
  let digits := Nat.toDigits 16 n
  List.replicate (width - digits.length) '0' ++ digits

/-- Prints what an escape means, given the text behind its backslash, which is left behind it. With
`zeroed`, octal numbers may have one more zero in front. -/
def escape (c : Call) (zeroed : Bool) (p : Print) (t : Chars) : Print × Chars :=
  match t with
  | [] => (p.put ['\\'], [])
  | x :: rest =>
    match x with
    | 'a' => (p.put ['\x07'], rest)
    | 'b' => (p.put ['\x08'], rest)
    | 'c' => ({ p with ended := true, failed := false }, rest)
    | 'e' => (p.put ['\x1b'], rest)
    | 'f' => (p.put ['\x0c'], rest)
    | 'n' => (p.put ['\n'], rest)
    | 'r' => (p.put ['\r'], rest)
    | 't' => (p.put ['\t'], rest)
    | 'v' => (p.put ['\x0b'], rest)
    | '\\' => (p.put ['\\'], rest)
    | '"' => (p.put ['"'], rest)
    | 'x' =>
      let (n, after) := number 16 2 rest
      if after.length = rest.length then
        (p.abort c "missing hexadecimal number in escape".toList, rest)
      else (p.put [octet n], after)
    | 'u' | 'U' =>
      let width := if x = 'u' then 4 else 8
      let (n, after) := number 16 width rest
      if after.length + width ≠ rest.length then
        (p.abort c "missing hexadecimal number in escape".toList, rest)
      else if !isUniversal n then
        (p.abort c ("invalid universal character name \\".toList ++ x :: hexText width n), after)
      else if n < 128 then (p.put [octet n], after)
      else if c.isUtf8 && n < 0x110000 then (p.put (Octets.ofChars [Char.ofNat n]), after)
      else
        let name := (if n < 0x10000 then 'u' :: hexText 4 n else 'U' :: hexText 8 n)
        (p.put ('\\' :: name.take 1 ++ (name.drop 1).map Char.toUpper), after)
    | x =>
      if '0' ≤ x && x ≤ '7' then
        let (n, after) := number 8 3 (if zeroed && x = '0' then rest else t)
        (p.put [octet n], after)
      else (p.put ['\\', x], rest)

def escaped (c : Call) : (fuel : Nat) → Print → Chars → Print
  | 0, p, _ | _, p, [] => p
  | fuel + 1, p, '\\' :: rest =>
    let (p, rest) := escape c true p rest
    if p.ended then p else escaped c fuel p rest
  | fuel + 1, p, x :: rest => escaped c fuel (p.put [x]) rest

def convert (c : Call) (k : Conversion) (p : Print) (arg : Chars) : Print :=
  match k.letter with
  | 'c' => p.put (k.char (arg.headD '\x00'))
  | 's' => p.put (k.text arg)
  | 'd' | 'i' =>
    let (n, p) := signed c p arg
    p.put (k.integer n)
  | 'o' | 'u' | 'x' | 'X' =>
    let (n, p) := unsigned c p arg
    p.put (k.natural n)
  | _ =>
    let (r, p) := real c p arg
    p.put (k.floating .extended r)

def greatestWidth : Int := 2147483647

/-- A conversion as it is read: with the arguments left over for it, and the text behind it. -/
structure Directive where
  conversion : Conversion
  args : List Chars
  rest : Chars

def isKnown (flags : Chars) (precise : Bool) (letter : Char) : Bool :=
  "aAcdeEfFgGiosuxX".toList.contains letter &&
    !(flags.contains '#' && "cdisu".toList.contains letter) &&
    !(flags.contains '0' && "cs".toList.contains letter) &&
    !((flags.contains '\'' || flags.contains 'I') && "aAceEosxX".toList.contains letter) &&
    !(precise && letter = 'c')

def measure (c : Call) (p : Print) (args : List Chars) (t : Chars) :
    Option Int × Print × List Chars × Chars :=
  match t with
  | '*' :: rest =>
    match args with
    | [] => (some 0, p, [], rest)
    | arg :: args =>
      let (n, p) := signed c p arg
      (some n, p, args, rest)
  | t =>
    let digits := t.takeWhile Char.isDigit
    (if digits.isEmpty then none else some (decimal digits), p, args, t.drop digits.length)

def directive (c : Call) (p : Print) (args : List Chars) (t : Chars) : Print × Option Directive :=
  let flags := t.takeWhile fun x => "I'-+ #0".toList.contains x
  let (width, p, args', t') := measure c p args (t.drop flags.length)
  let width := width.getD 0
  if width > greatestWidth || width < -(greatestWidth + 1) then
    (p.abort c ("invalid field width: ".toList ++ Quoting.phrase (args.headD [])), none)
  else
    let flags := if width < 0 then '-' :: flags else flags
    let (precise, precision, p, args'', t') : Bool × Option Int × Print × List Chars × Chars :=
      match t' with
      | '.' :: rest =>
        let (n, p, args, rest) := measure c p args' rest
        (true, some (n.getD 0), p, args, rest)
      | t' => (false, none, p, args', t')
    if precision.getD 0 > greatestWidth then
      (p.abort c ("invalid precision: ".toList ++ Quoting.phrase (args'.headD [])), none)
    else
      let t' := t'.dropWhile fun x => "lLhjtz".toList.contains x
      let letter := t'.headD '\x00'
      if !isKnown flags precise letter then
        let text := (t.take (t.length - t'.length)) ++ t'.take 1
        (p.abort c ('%' :: text ++ ": invalid conversion specification".toList), none)
      else
        let precision := match precision with
          | some n => if n < 0 then none else some n.toNat
          | none => none
        (p, some ⟨{ flags, width := width.natAbs, precision, letter }, args'', t'.drop 1⟩)

def once (c : Call) : (fuel : Nat) → Print → Chars → List Chars → Print × List Chars
  | 0, p, _, args | _, p, [], args => (p, args)
  | fuel + 1, p, x :: rest, args =>
    if p.ended then (p, args)
    else if x = '\\' then
      let (p, rest) := escape c false p rest
      once c fuel p rest args
    else if x ≠ '%' then
      let run := x :: rest.takeWhile fun y => y ≠ '\\' && y ≠ '%'
      once c fuel (p.put run) (rest.drop (run.length - 1)) args
    else
      match rest with
      | '%' :: rest => once c fuel (p.put ['%']) rest args
      | 'b' :: rest =>
        let arg := args.headD []
        once c fuel (escaped c (arg.length + 1) p arg) rest (args.drop 1)
      | 'q' :: rest =>
        match args with
        | [] => once c fuel p rest []
        | arg :: args => once c fuel (p.put (Quoting.writeWord c.isUtf8 arg)) rest args
      | rest =>
        match directive c p args rest with
        | (p, none) => (p, [])
        | (p, some d) => once c fuel (convert c d.conversion p (d.args.headD [])) d.rest (d.args.drop 1)

def again (c : Call) (format : Chars) : (fuel : Nat) → Print → List Chars → Print
  | 0, p, _ => p
  | fuel + 1, p, args =>
    let (p, rest) := once c (format.length + 1) p format args
    if p.ended || rest.isEmpty then p
    else if rest.length = args.length then
      p.complain c ("warning: ignoring excess arguments, starting with ".toList ++
        Quoting.phrase (rest.headD []))
    else again c format fuel p rest

end Printf

def printf : Tool := fun c d =>
  let known : Known := { letters := [], name := "printf", uses := ["FORMAT [ARGUMENT]...", "OPTION"] }
  if c.args = ["--help".toList] then (Ending.notice (known.usage c.name)).deed c d
  else if c.args = ["--version".toList] then (Ending.notice known.version).deed c d
  else
    let args := if c.args.head? = some ['-', '-'] then c.args.drop 1 else c.args
    match args with
    | [] => c.misuse d 1 "missing operand".toList
    | format :: args =>
      let p := Printf.again c format (args.length + 1) {} args
      { written := p.written.reverse, status := if p.failed then 1 else 0, files := d.files }

end PipelineShell.Userland
