import PipelineShell.Script.Command.Letters
import PipelineShell.Userland.Printf

/-!
# Commands that write

`echo` writes its arguments with blanks between them, `printf` by a format that is used again until
no arguments are left. In both, a backslash begins the name of a character.
-/

namespace PipelineShell.Script.Command

open Script.Shell Userland

def isOctal (c : Char) : Bool := '0' ≤ c && c ≤ '7'

/-- The character named behind a backslash, and what is behind the name; a name that is not known is
left as it is, with the backslash. -/
def escape (t : Chars) : Char × Chars :=
  match t with
  | [] => ('\\', [])
  | c :: rest =>
    if isOctal c then
      let digits := (t.take 3).takeWhile isOctal
      (Printf.octet (digits.foldl (fun n d => 8 * n + (d.toNat - 48)) 0), t.drop digits.length)
    else
      match "\\abefnrtv".toList.zip "\\\x07\x08\x1b\x0c\n\x0d\t\x0b".toList |>.lookup c with
      | some x => (x, rest)
      | none => ('\\', t)

def escaped : Nat → Chars → Chars × Bool
  | 0, _ => ([], false)
  | fuel + 1, t =>
    match t with
    | [] => ([], false)
    | '\\' :: 'c' :: _ => ([], true)
    | '\\' :: rest =>
      let rest :=
        match rest with
        | '0' :: d :: _ => if isOctal d then rest.drop 1 else rest
        | _ => rest
      let (c, rest) := escape rest
      let (more, ended) := escaped fuel rest
      (c :: more, ended)
    | c :: rest =>
      let (more, ended) := escaped fuel rest
      (c :: more, ended)

def unescape (t : Chars) : Chars × Bool := escaped t.length.succ t

/-- What `echo` writes, ending with a new line unless `open_`. -/
def echoed (open_ : Bool) : List Chars → Chars
  | [] => if open_ then [] else ['\n']
  | arg :: rest =>
    let (t, ended) := unescape arg
    if ended then t
    else if rest.isEmpty then if open_ then t else t ++ ['\n']
    else t ++ ' ' :: echoed open_ rest

def echo (args : List Chars) : Run Int := do
  match args with
  | ['-', 'n'] :: rest => put (echoed true rest)
  | args => put (echoed false args)
  return 0

/-- Where printing is. -/
structure Printing where
  args : List Chars
  failed : Bool := false
  ended : Bool := false

namespace Printing

def next (p : Printing) : Option Chars × Printing := (p.args.head?, { p with args := p.args.drop 1 })

def check (p : Printing) (arg rest : Chars) (outOfRange : Bool) : Run Printing := do
  if !rest.isEmpty then
    say (arg ++ (if rest = arg then ": expected numeric value" else ": not completely converted").toList)
    return { p with failed := true }
  if outOfRange then
    say (arg ++ ": Numerical result out of range".toList)
    return { p with failed := true }
  return p

def quoted? : Chars → Option Nat
  | '"' :: rest | '\'' :: rest => some ((rest.map Char.toNat).headD 0)
  | _ => none

def whole (p : Printing) (low high : Int) : Run (Int × Printing) := do
  match p.next with
  | (none, p) => return (0, p)
  | (some arg, p) =>
    match quoted? arg with
    | some n => return (n, p)
    | none =>
      let w := Printf.readWhole arg
      let value := max low (min high w.value)
      return (value, ← p.check arg w.rest (value ≠ w.value))

def signed (p : Printing) : Run (Int × Printing) := p.whole (-0x8000000000000000) 0x7fffffffffffffff

def unsigned (p : Printing) : Run (Nat × Printing) := do
  let (n, p') ← p.whole (-0xffffffffffffffff) 0xffffffffffffffff
  let tooSmall := p.args.head?.any fun arg => (Printf.readWhole arg).value ≤ -0x10000000000000000
  return (if tooSmall then 0xffffffffffffffff else (n % 0x10000000000000000).toNat, p')

def real (p : Printing) : Run (Floating.Real × Printing) := do
  match p.next with
  | (none, p) => return (.finite false 0 1, p)
  | (some arg, p) =>
    match quoted? arg with
    | some n => return (.finite false n 1, p)
    | none =>
      match Floating.read arg with
      | none => return (.finite false 0 1, ← p.check arg arg false)
      | some (r, rest) =>
        let (r, outOfRange) := Floating.Format.double.round r
        return (r, ← p.check arg rest outOfRange)

def measure (p : Printing) (t : Chars) : Run (Option Int × Printing × Chars) :=
  match t with
  | '*' :: rest => do
    let (n, p) ← p.signed
    return (some n, p, rest)
  | t =>
    let digits := t.takeWhile Char.isDigit
    return (if digits.isEmpty then none else some (decimal digits), p, t.drop digits.length)

def convert (p : Printing) (k : Conversion) : Run (Option Printing) := do
  match k.letter with
  | 'b' =>
    let (arg, p) := p.next
    let (t, ended) := unescape (arg.getD [])
    put (k.text t)
    return some { p with ended }
  | 'c' =>
    let (arg, p) := p.next
    put (k.char ((arg.getD []).headD '\x00'))
    return some p
  | 's' =>
    let (arg, p) := p.next
    put (k.text (arg.getD []))
    return some p
  | 'd' | 'i' =>
    let (n, p) ← p.signed
    put (k.integer n)
    return some p
  | 'o' | 'u' | 'x' | 'X' =>
    let (n, p) ← p.unsigned
    put (k.natural n)
    return some p
  | c =>
    if "aAeEfFgG".toList.contains c then
      let (r, p) ← p.real
      put (k.floating .double r)
      return some p
    else return none

def once : Nat → Printing → Chars → Run Printing
  | 0, p, _ => return p
  | fuel + 1, p, t => do
    match t with
    | [] => return p
    | '\\' :: rest =>
      let (c, rest) := escape rest
      put [c]
      once fuel p rest
    | '%' :: '%' :: rest =>
      put ['%']
      once fuel p rest
    | '%' :: rest =>
      let flags := rest.takeWhile fun c => "#-+ 0".toList.contains c
      let (width, p, t) ← p.measure (rest.drop flags.length)
      let (precision, p, t) : Option Int × Printing × Chars ←
        match t with
        | '.' :: rest => do
          let (n, p, t) ← p.measure rest
          pure (some (n.getD 0), p, t)
        | t => pure (none, p, t)
      match t with
      | [] => fail "missing format character".toList
      | letter :: t =>
        let width := width.getD 0
        let conversion : Conversion :=
          { letter
            flags := if width < 0 then '-' :: flags else flags
            width := width.natAbs
            precision := precision.bind fun n => if n < 0 then none else some n.toNat }
        match ← p.convert conversion with
        | some p => if p.ended then return p else once fuel p t
        | none =>
          let written := ('%' :: rest).take (rest.length + 1 - t.length)
          fail (written ++ ": invalid directive".toList)
    | c :: rest =>
      put [c]
      once fuel p rest

def again (format : Chars) : Nat → Printing → Run Printing
  | 0, p => return p
  | fuel + 1, p => do
    let before := p.args.length
    let p ← once format.length.succ p format
    if p.ended || p.args.isEmpty || p.args.length = before then return p else again format fuel p

end Printing

def print (args : List Chars) : Run Int := do
  match ← withoutOptions args with
  | [] => fail "usage: printf format [arg ...]".toList
  | format :: args =>
    let p ← Printing.again format args.length.succ { args }
    return if p.failed then 1 else 0

end PipelineShell.Script.Command
