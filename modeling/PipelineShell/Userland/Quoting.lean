import PipelineShell.Text.Octets
import PipelineShell.Text.Printable

/-!
# Names in messages

Names quoted for a shell or escaped. What is printable depends on the locale, so names stand between
marks until it is known.
-/

namespace PipelineShell.Userland.Quoting

def octal (c : Char) : Chars :=
  [c.toNat / 64, c.toNat / 8 % 8, c.toNat % 8].map fun d => Char.ofNat (48 + d)

def escapeCode (c : Char) : Chars :=
  match c.toNat with
  | 7 => ['a']
  | 8 => ['b']
  | 9 => ['t']
  | 10 => ['n']
  | 11 => ['v']
  | 12 => ['f']
  | 13 => ['r']
  | _ => octal c

def isPrintable (c : Char) : Bool := ' ' ≤ c && c ≤ '~'

/-- A character as its octets, and whether it can be printed. -/
structure Symbol where
  octets : Chars
  isPrintable : Bool
  deriving DecidableEq, Repr

/-- The characters of a row of octets; `skip` counts those that have been taken in already. With
`wide`, several octets may encode a character; an octet that encodes none stands for itself. -/
def symbolsFrom (wide : Bool) : (skip : Nat) → Chars → List Symbol
  | _, [] => []
  | skip + 1, _ :: rest => symbolsFrom wide skip rest
  | 0, c :: rest =>
    match
      if wide then Utf8.next c.toNat.toUInt8 (Octets.toBytes (rest.take 3)) else .error (1, .start)
    with
    | .ok (d, size) =>
      ⟨c :: rest.take (size - 1), Text.isPrintable d⟩ :: symbolsFrom wide (size - 1) rest
    | .error _ => ⟨[c], isPrintable c⟩ :: symbolsFrom wide 0 rest

def symbols (wide : Bool) (t : Chars) : List Symbol := symbolsFrom wide 0 t

/-! ### Ways to quote -/

def writePhrase (wide : Bool) (t : Chars) : Chars :=
  let (opening, closing) : Chars × Chars :=
    if wide then (Octets.ofChars ['‘'], Octets.ofChars ['’']) else (['\''], ['\''])
  opening ++ (symbols wide t).flatMap (fun s =>
    if s.octets = closing || s.octets = ['\\'] then '\\' :: s.octets
    else if s.isPrintable then s.octets
    else s.octets.flatMap fun c => '\\' :: escapeCode c) ++ closing

def isPlain (c : Char) : Bool := c.isAlphanum || "%+,-./:]_ !\"$&()*;<=>[^`|'".toList.contains c

def Symbol.isTame (s : Symbol) : Bool :=
  match s.octets with
  | [c] => isPlain c && !"!\"$`".toList.contains c
  | _ => s.isPrintable

/-- Whether a word has to be quoted for the sake of one of its characters; `first` and `only` tell
where that stands. -/
def Symbol.isSpecial (s : Symbol) (first only : Bool) : Bool :=
  match s.octets with
  | [c] =>
    " !\"$&()*;<=>[^`|?\\'".toList.contains c || !s.isPrintable ||
      ((c = '\x7b' || c = '\x7d') && only) || ((c = '#' || c = '~') && first)
  | _ => !s.isPrintable

/-- What stands between single quotes for a name; `escaping` tells that an escape is open. -/
def inner (escaping : Bool) : List Symbol → Chars
  | [] => []
  | s :: rest =>
    if s.octets = ['\''] then "'\\''".toList ++ inner false rest
    else if s.isPrintable then (if escaping then "''".toList else []) ++ s.octets ++ inner false rest
    else
      (if escaping then [] else "'$'".toList) ++ s.octets.flatMap (fun c => '\\' :: escapeCode c) ++
        inner true rest

def writeQuoted (wide : Bool) (t : Chars) : Chars :=
  let all := symbols wide t
  if t.contains '\'' && all.all (·.isTame) then '"' :: t ++ ['"']
  else '\'' :: inner false all ++ ['\'']

def writeWord (wide : Bool) (t : Chars) : Chars :=
  let all := symbols wide t
  if t.isEmpty || (all.zipIdx.any fun (s, i) => s.isSpecial (i = 0) (all.length = 1)) then
    writeQuoted wide t
  else t

/-! ### Marks -/

/-- How something is to be quoted. -/
inductive Style
  | phrase
  | quoted
  | word
  | name
  deriving DecidableEq, Repr

def Style.write (style : Style) (wide : Bool) (t : Chars) : Chars :=
  match style with
  | .phrase => writePhrase wide t
  | .quoted => writeQuoted wide t
  | .word => writeWord wide t
  | .name => if t.contains ':' then writeQuoted wide t else writeWord wide t

def Style.opening : Style → Char
  | .phrase => '‘'
  | .quoted => '“'
  | .word => '‚'
  | .name => '„'

def closing : Char := '’'

def Style.ofOpening? (c : Char) : Option Style :=
  [Style.phrase, .quoted, .word, .name].find? (·.opening = c)

def Style.mark (style : Style) (t : Chars) : Chars := style.opening :: t ++ [closing]

def phrase (t : Chars) : Chars := Style.phrase.mark t

def quotedName (t : Chars) : Chars := Style.quoted.mark t

def name (t : Chars) : Chars := Style.name.mark t

def resolveFrom (wide : Bool) : Option (Style × Chars) → Chars → Chars
  | none, [] => []
  | some (_, t), [] => t.reverse
  | none, c :: rest =>
    match Style.ofOpening? c with
    | some style => resolveFrom wide (some (style, [])) rest
    | none => c :: resolveFrom wide none rest
  | some (style, t), c :: rest =>
    if c = closing then style.write wide t.reverse ++ resolveFrom wide none rest
    else resolveFrom wide (some (style, c :: t)) rest

def resolve (wide : Bool) (t : Chars) : Chars := resolveFrom wide none t

example : resolve false ("x ".toList ++ phrase "a'b".toList) = "x 'a\\'b'".toList := by decide +kernel

end PipelineShell.Userland.Quoting
