import PipelineShell.Text.Wide
import PipelineShell.Userland.Sorting.Options

/-!
# `sort --debug`

Tells the comparison rules, and marks the keys of each line.
-/

namespace PipelineShell.Userland.Sorting

/-! ### Remarks -/

def Manner.isNumeric (m : Manner) : Bool := m.numeric || m.general || m.human

def rules (c : Call) : List Chars :=
  let known := c.isLocaleKnown
  let locale := c.localeFor "LC_COLLATE"
  (if known then [] else ["failed to set locale".toList]) ++
    [if known && Call.isWide locale then
        "text ordering performed using ".toList ++ Quoting.phrase locale ++ " sorting rules".toList
      else "text ordering performed using simple byte comparison".toList]

def oldKeyRemark (key : Key) : Chars :=
  let field := (key.start.map (·.1)).getD 0
  let stop := key.stop.map fun s => Chars.ofNat (s.1 + 1)
  let written := '+' :: Chars.ofNat field ++ (stop.map (" -".toList ++ ·)).getD []
  let wanted := "-k ".toList ++ Chars.ofNat (field + 1) ++ (stop.map (',' :: ·)).getD []
  "obsolescent key ".toList ++ Quoting.phrase written ++ " used; consider ".toList ++
    Quoting.phrase wanted ++ " instead".toList

def Key.isEmpty (key : Key) : Bool :=
  match key.start, key.stop with
  | some start, some stop => stop.1 < start.1
  | _, _ => false

def Key.spans (key : Key) : Bool :=
  key.manner.isNumeric &&
    match key.stop with
    | none => true
    | some stop => max 1 ((key.start.map (·.1 + 1)).getD 0) < stop.1 + 1

def Job.keyRemarks (k : Job) (number : Nat) (key : Key) : List Chars :=
  let m := key.manner
  let stopChar := (key.stop.map (·.2)).getD 0
  let inFirst : Bool := key.stop.any fun stop => stop.1 = 0 && stop.2 ≠ 0
  let blanksCount : Bool :=
    (!m.blanksAtStart && !(m.isNumeric || m.month)) ||
      (!m.blanksAtStart && ((key.start.map (·.2)).getD 0) ≠ 0) || (!m.blanksAtEnd && stopChar ≠ 0)
  (if key.isOld then [oldKeyRemark key] else []) ++
    (if key.isEmpty then
      ["key ".toList ++ Chars.ofNat number ++ " has zero width and will be ignored".toList]
    else []) ++
    (if !key.isEmpty && k.separator.isNone && !inFirst && blanksCount then
      ["leading blanks are significant in key ".toList ++ Chars.ofNat number ++
        "; consider also specifying 'b'".toList]
    else []) ++
    if key.spans then
      ["key ".toList ++ Chars.ofNat number ++ " is numeric and spans multiple fields".toList]
    else []

def Manner.without (m key : Manner) : Manner where
  blanksAtStart := m.blanksAtStart && !key.blanksAtStart
  blanksAtEnd := m.blanksAtEnd && !key.blanksAtEnd
  ignored := if m.ignored = key.ignored then .nothing else m.ignored
  fold := m.fold && !key.fold
  general := m.general && !key.general
  human := m.human && !key.human
  month := m.month && !key.month
  numeric := m.numeric && !key.numeric
  random := m.random && !key.random
  version := m.version && !key.version
  reverse := m.reverse && !key.reverse

def Manner.allLetters (m : Manner) : Chars :=
  (if m.blanksAtStart || m.blanksAtEnd then ['b'] else []) ++
    m.letters.filter (· ≠ 'V') ++ (if m.reverse then ['r'] else []) ++
    if m.version then ['V'] else []

/-- What is said of a separator of fields that may be part of a number; `whole` tells that the only
key is for whole lines. -/
def Job.separatorRemark (k : Job) (whole : Bool) : Option Chars :=
  let spanning := if whole then [] else k.keys.filter (·.spans)
  let isAny (m : Manner → Bool) : Bool := spanning.any fun key => m key.manner
  let remark (b : UInt8) (what : String) : Option Chars :=
    some ("field separator ".toList ++ Quoting.phrase (Octets.ofBytes [b]) ++
      " is treated as a ".toList ++ what.toList ++ " in numbers".toList)
  match k.separator with
  | some 46 => if spanning.isEmpty then none else remark 46 "decimal point"
  | some 45 => if spanning.isEmpty then none else remark 45 "minus sign"
  | some 43 => if isAny (·.general) then remark 43 "plus sign" else none
  | _ => none

/-- What is doubtful about the keys; `whole` tells that the only one is for whole lines. -/
def Job.remarks (k : Job) (whole : Bool) : List Chars :=
  let rest := k.keys.foldl (fun (m : Manner) key => m.without key.manner) k.manner
  let onlyOne : Bool := k.stable || k.unique
  let reversed : Bool := rest.reverse && !k.keys.isEmpty
  let idle := { rest with reverse := rest.reverse && onlyOne }.allLetters
  (if whole then [] else (k.keys.zipIdx 1).flatMap fun (key, i) => k.keyRemarks i key) ++
    (k.separatorRemark whole).toList ++
    (if k.keys.any (·.manner.isNumeric) &&
        !(k.separator = some 46 && (k.separatorRemark whole).isSome) then
      [(if k.separator = some 46 then [] else "note ".toList) ++ "numbers use ".toList ++
        Quoting.phrase ['.'] ++ " as a decimal point in this locale".toList]
    else []) ++
    (if !rest.isDefault || (reversed && onlyOne) then
      [if idle.length = 1 then "option '-".toList ++ idle ++ "' is ignored".toList
        else "options '-".toList ++ idle ++ "' are ignored".toList]
    else []) ++
    if reversed && !onlyOne then ["option '-r' only applies to last-resort comparison".toList]
    else []

/-! ### Marks -/

def columns (wide : Bool) (t : Bytes) : Nat :=
  (Quoting.symbols wide (Octets.ofBytes t)).foldl (fun n s =>
    n + match s.octets with
      | [c] => if c = '\t' then 1 else if c.toNat < 32 || c.toNat = 127 then 0 else 1
      | octets =>
        ((Octets.toChars octets).map fun d =>
          if Text.Wide.isShown d then Text.Wide.columns d
          else if d.toNat < 160 || d.toNat = 0x2028 || d.toNat = 0x2029 then 0
          else 1).foldl (· + ·) 0) 0

def Manner.length (m : Manner) (t : Bytes) : Nat :=
  if m.month then (if Ordering.month t = 0 then 0 else Ordering.monthLength)
  else if m.general then Ordering.scientificLength t
  else if m.numeric || m.human then
    let (length, isNumber) := Ordering.numberLength t
    if !isNumber then 0
    else if m.human && ((t.drop length).head?.map Ordering.unitRank).getD 0 ≠ 0 then length + 1
    else length
  else t.length

def Key.extent (key : Key) (separator : Option UInt8) (line : Bytes) : Nat × Nat :=
  let m := key.manner
  let first := if key.start.isSome then key.beginning separator line else 0
  let last := if key.stop.isSome then max first (key.ending separator line) else line.length
  if (m.blanksAtStart && key.start.isNone) || m.month || m.isNumeric then
    let t := (line.drop first).take (last - first)
    let rest := t.dropWhile Ordering.isBlank
    (first + (t.length - rest.length), m.length rest)
  else (first, last - first)

def mark (wide : Bool) (line : Bytes) (extent : Nat × Nat) : Chars :=
  let (first, length) := extent
  let size := columns wide ((line.drop first).take length)
  List.replicate (columns wide (line.take first)) ' ' ++
    (if size = 0 then "^ no match for key".toList else List.replicate size '_') ++ ['\n']

def Job.accountOf (k : Job) (wide : Bool) (line : Bytes) : Bytes :=
  let whole := if k.keys.isEmpty || !(k.unique || k.stable) then [(0, line.length)] else []
  line.map (fun b => if b = 9 then 62 else b) ++ 10 :: Octets.toBytes
    ((k.keys.map (·.extent k.separator line) ++ whole).flatMap (mark wide line))

end PipelineShell.Userland.Sorting
