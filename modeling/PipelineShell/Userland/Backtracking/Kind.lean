import PipelineShell.Userland.Regex.Symbol

/-!
# Kinds of symbols

What escaped letters, class names and properties match.
-/

namespace PipelineShell.Userland.Backtracking

abbrev Kind := Char → Bool

namespace Kind

def other (p : Kind) : Kind := fun c => Regex.isDecoded c && !p c

def isWord (c : Char) : Bool := c.isAlphanum || c = '_'

def isHorizontal (c : Char) : Bool :=
  c = '\t' || c = ' ' || c.toNat = 0xa0 || c.toNat = 0x1680 || c.toNat = 0x180e ||
    (0x2000 ≤ c.toNat && c.toNat ≤ 0x200a) || c.toNat = 0x202f || c.toNat = 0x205f ||
    c.toNat = 0x3000

def isVertical (c : Char) : Bool :=
  ('\n' ≤ c && c ≤ '\r') || c.toNat = 0x85 || c.toNat = 0x2028 || c.toNat = 0x2029

def ofLetter? (c : Char) : Option Kind :=
  match c with
  | 'd' => some Char.isDigit
  | 'D' => some (other Char.isDigit)
  | 's' => some Text.Class.isSpace
  | 'S' => some (other Text.Class.isSpace)
  | 'w' => some isWord
  | 'W' => some (other isWord)
  | 'h' => some isHorizontal
  | 'H' => some (other isHorizontal)
  | 'v' => some isVertical
  | 'V' => some (other isVertical)
  | _ => none

/-- The kind with a name between brackets. If case does not count, letters of either case are all
letters. -/
def named? (fold : Bool) (name : Chars) : Option Kind :=
  match String.ofList name with
  | "ascii" => some fun c => c.toNat < 128
  | "word" => some isWord
  | "upper" | "lower" =>
    if fold then some Char.isAlpha else Text.Class.basic.lookup name
  | _ => Text.Class.basic.lookup name

def literal (wide fold : Bool) (c : Char) : Kind :=
  if fold then fun x =>
    x = c || Regex.lower wide x = Regex.lower wide c || Regex.upper wide x = Regex.upper wide c
  else (· = c)

def range (wide fold : Bool) (first last : Char) : Kind :=
  let within (c : Char) : Bool := first ≤ c && c ≤ last
  if fold then fun x => within x || within (Regex.lower wide x) || within (Regex.upper wide x)
  else fun x => within x

/-! ### Properties -/

def scripts : List (String × List (Nat × Nat)) :=
  [("latin", [(0x41, 0x5a), (0x61, 0x7a), (0xaa, 0xaa), (0xba, 0xba), (0xc0, 0xd6), (0xd8, 0xf6),
      (0xf8, 0x2b8), (0x2e0, 0x2e4), (0x1d00, 0x1d25), (0x1d2c, 0x1d5c), (0x1d62, 0x1d65),
      (0x1d6b, 0x1d77), (0x1d79, 0x1dbe), (0x1e00, 0x1eff), (0x2071, 0x2071), (0x207f, 0x207f),
      (0x2090, 0x209c), (0x212a, 0x212b), (0x2132, 0x2132), (0x214e, 0x214e), (0x2160, 0x2188),
      (0x2c60, 0x2c7f), (0xa722, 0xa787), (0xa78b, 0xa7ca), (0xfb00, 0xfb06), (0xff21, 0xff3a),
      (0xff41, 0xff5a)]),
    ("greek", [(0x370, 0x373), (0x375, 0x377), (0x37a, 0x37d), (0x37f, 0x37f), (0x384, 0x384),
      (0x386, 0x386), (0x388, 0x3e1), (0x3f0, 0x3ff), (0x1f00, 0x1ffe), (0x2126, 0x2126)]),
    ("cyrillic", [(0x400, 0x484), (0x487, 0x52f), (0x1c80, 0x1c88), (0x1d2b, 0x1d2b),
      (0x2de0, 0x2dff), (0xa640, 0xa69f)]),
    ("hebrew", [(0x591, 0x5c7), (0x5d0, 0x5ea), (0x5ef, 0x5f4)]),
    ("arabic", [(0x600, 0x604), (0x606, 0x60b), (0x60d, 0x61a), (0x61c, 0x61e), (0x620, 0x63f),
      (0x641, 0x64a), (0x656, 0x66f), (0x671, 0x6dc), (0x6de, 0x6ff), (0x750, 0x77f)]),
    ("hiragana", [(0x3041, 0x3096), (0x309d, 0x309f)]),
    ("katakana", [(0x30a1, 0x30fa), (0x30fd, 0x30ff), (0x31f0, 0x31ff), (0xff66, 0xff6f),
      (0xff71, 0xff9d)]),
    ("hangul", [(0x1100, 0x11ff), (0x3131, 0x318e), (0xac00, 0xd7a3)]),
    ("thai", [(0xe01, 0xe3a), (0xe40, 0xe5b)]),
    ("han", [(0x2e80, 0x2e99), (0x2e9b, 0x2ef3), (0x2f00, 0x2fd5), (0x3005, 0x3005),
      (0x3007, 0x3007), (0x3021, 0x3029), (0x3038, 0x303b), (0x3400, 0x4dbf), (0x4e00, 0x9fff),
      (0xf900, 0xfa6d), (0xfa70, 0xfad9), (0x20000, 0x2fa1f)])]

def zeros : List Nat :=
  [0x30, 0x660, 0x6f0, 0x7c0, 0x966, 0x9e6, 0xa66, 0xae6, 0xb66, 0xbe6, 0xc66, 0xce6, 0xd66, 0xe50,
    0xed0, 0xf20, 0x1040, 0xff10]

def isDecimal (c : Char) : Bool := zeros.any fun z => z ≤ c.toNat && c.toNat ≤ z + 9

def isOtherNumber (c : Char) : Bool :=
  Text.Wide.isIn [(0xb2, 0xb3), (0xb9, 0xb9), (0xbc, 0xbe), (0x2070, 0x2070), (0x2074, 0x2079),
    (0x2080, 0x2089), (0x2150, 0x2189), (0x2460, 0x249b), (0x24ea, 0x24ff), (0x2776, 0x2793),
    (0x3007, 0x3007), (0x3021, 0x3029)] c.toNat

def isMarkOnLetter (c : Char) : Bool := Text.Wide.isIn Text.Wide.combining c.toNat

def isLetter (c : Char) : Bool :=
  Text.Letter.isLetter c && !isDecimal c && !isOtherNumber c && !isMarkOnLetter c

def isSign (c : Char) : Bool :=
  "$+<=>^\x60|~¢£¤¥¦¨©¬®¯°±´¸×÷".toList.contains c ||
    Text.Wide.isIn [(0x2044, 0x2044), (0x2052, 0x2052), (0x20a0, 0x20c0), (0x2100, 0x2101),
      (0x2103, 0x2106), (0x2108, 0x2109), (0x2114, 0x2114), (0x2116, 0x2118), (0x211e, 0x2123),
      (0x2190, 0x2307), (0x230c, 0x2328), (0x232b, 0x2426), (0x249c, 0x24e9), (0x2500, 0x2767),
      (0x2794, 0x27c4), (0x27c7, 0x27e5), (0x27f0, 0x2982), (0x2999, 0x29d7), (0x29dc, 0x29fb),
      (0x29fe, 0x2bff), (0x1f000, 0x1faff)] c.toNat

def isPunctuation (c : Char) : Bool :=
  Text.Letter.isMark c && !isSign c && !isOtherNumber c && !isMarkOnLetter c

def isSeparator (c : Char) : Bool :=
  c = ' ' || c.toNat = 0xa0 || c.toNat = 0x1680 || (0x2000 ≤ c.toNat && c.toNat ≤ 0x200a) ||
    c.toNat = 0x2028 || c.toNat = 0x2029 || c.toNat = 0x202f || c.toNat = 0x205f ||
    c.toNat = 0x3000

def isControl (c : Char) : Bool := c < ' ' || (0x7f ≤ c.toNat && c.toNat < 0xa0)

def isUpper (c : Char) : Bool := Text.Letter.isUpper c && isLetter c

def isLower (c : Char) : Bool := Text.Letter.isLower c && isLetter c

def properties : List (String × Kind) :=
  [("any", Regex.isDecoded), ("l", isLetter), ("l&", fun c => isUpper c || isLower c),
    ("lc", fun c => isUpper c || isLower c), ("lu", isUpper), ("ll", isLower),
    ("lt", fun c => [0x1c5, 0x1c8, 0x1cb, 0x1f2].contains c.toNat),
    ("lm", fun c => Text.Wide.isIn [(0x2b0, 0x2c1), (0x2c6, 0x2d1), (0x2e0, 0x2e4)] c.toNat),
    ("lo", fun c => isLetter c && !isUpper c && !isLower c), ("m", isMarkOnLetter),
    ("mn", isMarkOnLetter), ("n", fun c => isDecimal c || isOtherNumber c), ("nd", isDecimal),
    ("nl", fun c => Text.Wide.isIn [(0x2160, 0x2182), (0x3007, 0x3007), (0x3021, 0x3029)] c.toNat),
    ("no", isOtherNumber), ("p", isPunctuation), ("pc", fun c => c = '_' || c.toNat = 0x203f),
    ("pd", fun c => c = '-' || (0x2010 ≤ c.toNat && c.toNat ≤ 0x2015)),
    ("ps", fun c => "([\x7b".toList.contains c), ("pe", fun c => ")]\x7d".toList.contains c),
    ("pi", fun c => "«‘“".toList.contains c), ("pf", fun c => "»’”".toList.contains c),
    ("po", fun c => isPunctuation c && !"_-()[]\x7b\x7d«»‘’“”".toList.contains c), ("s", isSign),
    ("sm", fun c => "+<=>|~¬±×÷".toList.contains c || (0x2200 ≤ c.toNat && c.toNat ≤ 0x22ff)),
    ("sc", fun c => "$¢£¤¥".toList.contains c || (0x20a0 ≤ c.toNat && c.toNat ≤ 0x20c0)),
    ("sk", fun c => "^\x60¨¯´¸".toList.contains c), ("so", fun c => isSign c && c.toNat > 0x7f),
    ("z", isSeparator), ("zs", fun c => isSeparator c && c.toNat ≠ 0x2028 && c.toNat ≠ 0x2029),
    ("zl", fun c => c.toNat = 0x2028), ("zp", fun c => c.toNat = 0x2029), ("c", isControl),
    ("cc", isControl), ("xan", fun c => isLetter c || isDecimal c || isOtherNumber c),
    ("xsp", fun c => isSeparator c || Text.Class.isSpace c || c.toNat = 0x85),
    ("xps", fun c => isSeparator c || Text.Class.isSpace c || c.toNat = 0x85),
    ("xwd", fun c => isLetter c || isDecimal c || isOtherNumber c || c = '_')] ++
  scripts.map fun (name, ranges) => (name, fun c => Text.Wide.isIn ranges c.toNat)

def property? (name : Chars) : Option Kind :=
  let name := (name.filter fun c => c ≠ '_' && c ≠ '-' && c ≠ ' ').map Char.toLower
  properties.lookup (String.ofList name)

end Kind
end PipelineShell.Userland.Backtracking
