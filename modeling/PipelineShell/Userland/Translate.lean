import PipelineShell.Text.Class
import PipelineShell.Userland.Options
import PipelineShell.Userland.Quoting

/-!
# `tr`

Replaces, deletes and squeezes bytes, given by ranges, classes and repeats.
-/

namespace PipelineShell.Userland.Translate

def alphabet : List Char := (List.range 256).map Char.ofNat

/-- An element of a row. -/
inductive Element
  | single (c : Char)
  | range (first last : Char)
  | ofClass (name : Chars)
  | equivalent (c : Char)
  | repeated (c : Char) (count : Option Nat)
  deriving DecidableEq, Repr

def Element.members : Element → List Char
  | .single c | .equivalent c => [c]
  | .range first last => alphabet.filter fun c => first ≤ c && c ≤ last
  | .ofClass name => alphabet.filter ((Text.Class.basic.lookup name).getD fun _ => false)
  | .repeated c count => List.replicate (count.getD 0) c

def Element.case? : Element → Option Bool
  | .ofClass name =>
    if name = "upper".toList then some true
    else if name = "lower".toList then some false
    else none
  | _ => none

abbrev Marks := List (Char × Bool)

def unescape : (fuel : Nat) → Chars → Marks × List Chars
  | 0, _ | _, [] => ([], [])
  | fuel + 1, '\\' :: rest =>
    let isOctal (c : Char) : Bool := '0' ≤ c && c ≤ '7'
    let (c, rest, warnings) : (Char × Bool) × Chars × List Chars :=
      match rest with
      | [] =>
        (('\\', false), [],
          ["warning: an unescaped backslash at end of string is not portable".toList])
      | 'a' :: rest => (('\x07', true), rest, [])
      | 'b' :: rest => (('\x08', true), rest, [])
      | 'f' :: rest => (('\x0c', true), rest, [])
      | 'n' :: rest => (('\n', true), rest, [])
      | 'r' :: rest => (('\r', true), rest, [])
      | 't' :: rest => (('\t', true), rest, [])
      | 'v' :: rest => (('\x0b', true), rest, [])
      | c :: rest =>
        if isOctal c then
          let value (digits : Chars) : Nat := digits.foldl (fun n d => 8 * n + (d.toNat - 48)) 0
          let digits := (c :: rest.take 2).takeWhile isOctal
          if value digits < 256 then
            ((Char.ofNat (value digits), true), (c :: rest).drop digits.length, [])
          else
            let short := digits.take 2
            ((Char.ofNat (value short), true), (c :: rest).drop 2,
              ["warning: the ambiguous octal escape \\".toList ++ digits ++
                " is being\n\tinterpreted as the 2-byte sequence \\0".toList ++ short ++
                ", ".toList ++ digits.drop 2])
        else ((c, true), rest, [])
    let (more, later) := unescape fuel rest
    (c :: more, warnings ++ later)
  | fuel + 1, c :: rest =>
    let (more, warnings) := unescape fuel rest
    ((c, false) :: more, warnings)

def printable (t : Chars) : Chars :=
  t.flatMap fun c =>
    if c = '\\' then ['\\', '\\']
    else if Quoting.isPrintable c then [c]
    else '\\' :: Quoting.escapeCode c

def printableChar (c : Char) : Chars :=
  if Quoting.isPrintable c then [c]
  else
    let digits := Nat.toDigits 8 c.toNat
    '\\' :: List.replicate (3 - digits.length) '0' ++ digits

/-- The characters before the first place where a mark and a closing bracket stand together, and
what comes after that. -/
def untilClosing (mark : Char) : Marks → Option (Chars × Marks)
  | (a, false) :: (']', false) :: rest =>
    if a = mark then some ([], rest)
    else (untilClosing mark ((']', false) :: rest)).map fun (t, rest) => (a :: t, rest)
  | (a, _) :: rest => (untilClosing mark rest).map fun (t, rest) => (a :: t, rest)
  | [] => none

def isStarredCount : Marks → Bool
  | ('*', false) :: rest =>
    match rest.dropWhile (·.1.isDigit) with
    | (']', false) :: _ => true
    | _ => false
  | _ => false

def repetition : Marks → Option (Except Chars (Element × Marks))
  | (c, _) :: ('*', false) :: rest =>
    let count := rest.takeWhile fun m => !m.2 && m.1 ≠ ']'
    match rest.drop count.length with
    | (']', false) :: after =>
      let digits := count.map (·.1)
      let base := if digits.head? = some '0' then 8 else 10
      let value := digits.foldl (fun n d => base * n + (d.toNat - 48)) 0
      let isValid := digits.all fun d => '0' ≤ d && d.toNat < 48 + base
      if digits.isEmpty then some (.ok (.repeated c none, after))
      else if isValid && value < 0x10000000000000000 then
        some (.ok (.repeated c (if value = 0 then none else some value), after))
      else
        some (.error ("invalid repeat count ".toList ++ Quoting.phrase (printable digits) ++
          " in [c*n] construct".toList))
    | _ => none
  | _ => none

def classOf (mark : Char) (rest : Marks) : Option (Except Chars (Element × Marks)) :=
  match untilClosing mark rest with
  | none => none
  | some ([], _) =>
    some (.error (if mark = ':' then "missing character class name '[::]'".toList
      else "missing equivalence class character '[==]'".toList))
  | some (t, after) =>
    if mark = ':' then
      if (Text.Class.basic.lookup t).isSome then some (.ok (.ofClass t, after))
      else if isStarredCount rest then none
      else some (.error ("invalid character class ".toList ++ Quoting.phrase (printable t)))
    else
      match t with
      | [c] => some (.ok (.equivalent c, after))
      | _ =>
        if isStarredCount rest then none
        else some (.error (printable t ++
          ": equivalence class operand must be a single character".toList))

def bracketed (rest : Marks) : Option (Except Chars (Element × Marks)) :=
  match rest with
  | (mark, false) :: more =>
    if mark = ':' || mark = '=' then (classOf mark more).or (repetition rest) else repetition rest
  | _ => repetition rest

def elements : (fuel : Nat) → Marks → Except Chars (List Element)
  | 0, _ | _, [] => .ok []
  | fuel + 1, (a, quoted) :: rest =>
    let special := if a = '[' && !quoted && rest.length ≥ 2 then bracketed rest else none
    match special with
    | some (.error message) => .error message
    | some (.ok (element, rest)) => (elements fuel rest).map (element :: ·)
    | none =>
      match rest with
      | ('-', false) :: (b, _) :: after =>
        if a ≤ b then (elements fuel after).map (.range a b :: ·)
        else
          .error ("range-endpoints of '".toList ++ printableChar a ++ '-' :: printableChar b ++
            "' are in reverse collating sequence order".toList)
      | _ => (elements fuel rest).map (.single a :: ·)

/-- What is to be done. -/
structure Task where
  complement : Bool := false
  delete : Bool := false
  squeeze : Bool := false
  truncate : Bool := false

def members (row : List Element) : List Char := row.flatMap Element.members

def Task.domain (k : Task) (row : List Element) : List Char :=
  if k.complement then alphabet.filter (!(members row).contains ·) else members row

def fillUp (size : Nat) (row : List Element) : List Element :=
  let length := (members row).length
  row.map fun
    | .repeated c none => .repeated c (some (size - length))
    | e => e

/-- A member of a row: with the case of its element, and whether it is the first of it. -/
structure Member where
  char : Char
  case : Option Bool
  isFirst : Bool

def walk (row : List Element) : List Member :=
  row.flatMap fun e => e.members.zipIdx.map fun (c, i) => ⟨c, e.case?, i = 0⟩

def skipElement (row : List Member) : List Member := row.dropWhile (!·.isFirst)

def isAligned : (fuel : Nat) → List Member → List Member → Bool
  | 0, _, _ | _, _, [] => true
  | fuel + 1, first, b :: second =>
    match first with
    | [] => b.case.isNone
    | a :: first =>
      if b.case.isSome then
        a.isFirst && a.case.isSome && isAligned fuel (skipElement first) (skipElement second)
      else isAligned fuel first second

def pairs : (fuel : Nat) → List Member → List Member → List (Char × Char)
  | 0, _, _ => []
  | fuel + 1, a :: first, b :: second =>
    match a.case, b.case with
    | some false, some true =>
      (alphabet.filter Char.isLower).map (fun c => (c, c.toUpper)) ++
        pairs fuel (skipElement first) (skipElement second)
    | some true, some false =>
      (alphabet.filter Char.isUpper).map (fun c => (c, c.toLower)) ++
        pairs fuel (skipElement first) (skipElement second)
    | _, some _ => (a.char, b.char) :: pairs fuel (skipElement first) (skipElement second)
    | _, none => (a.char, b.char) :: pairs fuel first second
  | _ + 1, _, _ => []

def isUniform : List Char → Bool
  | [] => false
  | c :: rest => rest.all (· = c)

def checkFirst (row : List Element) : Except Chars Unit :=
  if row.any (fun e => match e with | .repeated _ none => true | _ => false) then
    .error "the [c*] repeat construct may not appear in string1".toList
  else .ok ()

def Task.second (k : Task) (first row : List Element) : Except Chars (List Element) :=
  let size := (k.domain first).length
  let open_ := (row.filter fun e => match e with | .repeated _ none => true | _ => false).length
  let filled := if open_ = 1 && size ≥ (members row).length then fillUp size row else row
  let isClass (e : Element) : Bool := match e with | .ofClass _ => true | _ => false
  if open_ > 1 then .error "only one [c*] repeat construct may appear in string2".toList
  else if k.delete then
    if open_ > 0 then
      .error "the [c*] construct may appear in string2 only when translating".toList
    else .ok row
  else if row.any (fun e => match e with | .equivalent _ => true | _ => false) then
    .error "[=c=] expressions may not appear in string2 when translating".toList
  else if row.any (fun e => isClass e && e.case?.isNone) then
    .error ("when translating, the only character classes that may appear in\n".toList ++
      "string2 are 'upper' and 'lower'".toList)
  else if !k.complement && row.any isClass &&
      !isAligned ((walk first).length + (walk filled).length + 1) (walk first) (walk filled) then
    .error "misaligned [:upper:] and/or [:lower:] construct".toList
  else
    let length := (members filled).length
    let extended : Except Chars (List Element) :=
      if size ≤ length || k.truncate then .ok filled
      else if length = 0 then
        .error "when not truncating set1, string2 must be non-empty".toList
      else
        match filled.getLast? with
        | some (.single c) | some (.range _ c) | some (.repeated c _) =>
          .ok (filled ++ [.repeated c (some (size - length))])
        | _ =>
          .error ("when translating with string1 longer than string2,\n".toList ++
            "the latter string must not end with a character class".toList)
    match extended with
    | .error message => .error message
    | .ok row =>
      if k.complement && first.any isClass &&
          !((members row).length = size && isUniform (members row)) then
        .error ("when translating with complemented character classes,\n".toList ++
          "string2 must map all characters in the domain to one".toList)
      else .ok row

/-- Makes one of equal neighbours from a set; what is done is kept in reverse, and the last byte
comes out besides. -/
def squeezeWith (set : Array Bool) (last : Option UInt8) (out : Bytes) :
    Bytes → Bytes × Option UInt8
  | [] => (out.reverse, last)
  | b :: rest =>
    if last = some b && set.getD b.toNat false then squeezeWith set last out rest
    else squeezeWith set (some b) (b :: out) rest

def table (set : List Char) : Array Bool :=
  set.foldl (fun (t : Array Bool) c => t.setIfInBounds c.toNat true) (Array.replicate 256 false)

def Task.mapping (k : Task) (first second : List Element) : Array UInt8 :=
  let ps :=
    if k.complement then (k.domain first).zip (members second)
    else pairs ((walk first).length + 1) (walk first) (walk second)
  ps.foldl (fun (t : Array UInt8) p => t.setIfInBounds p.1.toNat p.2.toNat.toUInt8)
    (Array.ofFn fun i : Fin 256 => i.val.toUInt8)

/-- What becomes of bytes: which are removed, what the others become, and which of those are joined
to equal ones before them. -/
structure Effect where
  removed : Option (Array Bool) := none
  become : Option (Array UInt8) := none
  joined : Option (Array Bool) := none

def Task.effect (k : Task) (first : List Element) (second : Option (List Element)) : Effect :=
  let domain := table (k.domain first)
  match second with
  | none => if k.delete then { removed := some domain } else { joined := some domain }
  | some second =>
    { removed := if k.delete then some domain else none
      become := if k.delete then none else some (k.mapping first second)
      joined := if k.squeeze then some (table (members second)) else none }

def Effect.apply (e : Effect) (last : Option UInt8) (data : Bytes) : Bytes × Option UInt8 :=
  let data :=
    match e.removed with
    | some set => data.filter fun b => !set.getD b.toNat false
    | none => data
  let data :=
    match e.become with
    | some mapping => data.map fun b => mapping.getD b.toNat b
    | none => data
  match e.joined with
  | some set => squeezeWith set last [] data
  | none => (data, none)

def known : Known where
  letters := "AcCdst".toList.map (·, .none)
  words :=
    [("complement".toList, .none, 'c'), ("delete".toList, .none, 'd'),
      ("squeeze-repeats".toList, .none, 's'), ("truncate-set1".toList, .none, 't')]
  name := "tr"
  uses := ["[OPTION]... STRING1 [STRING2]"]

def Task.add (k : Task) : Char → Task
  | 'c' | 'C' => { k with complement := true }
  | 'd' => { k with delete := true }
  | 's' => { k with squeeze := true }
  | 't' => { k with truncate := true }
  | _ => k

def Task.operandFault (k : Task) (operands : List Chars) : Option (Chars × List Chars) :=
  let least := if k.delete == k.squeeze then 2 else 1
  let most := if k.delete && !k.squeeze then 1 else 2
  match operands with
  | [] => some ("missing operand".toList, [])
  | _ =>
    if operands.length < least then
      some ("missing operand after ".toList ++ Quoting.phrase (operands.getLastD []),
        [if k.squeeze then
          "Two strings must be given when both deleting and squeezing repeats.".toList
        else "Two strings must be given when translating.".toList])
    else if most < operands.length then
      some ("extra operand ".toList ++ Quoting.phrase ((operands[most]?).getD []),
        if operands.length = 2 then
          ["Only one string may be given when deleting without squeezing repeats.".toList]
        else [])
    else none

def row (t : Chars) : List Chars × Except Chars (List Element) :=
  let (marks, warnings) := unescape (t.length + 1) t
  (warnings, elements (marks.length + 1) marks)

def Task.rows (k : Task) : List Chars → List Chars × Except Chars (List Element × Option (List Element))
  | [] => ([], .ok ([], none))
  | a :: more =>
    match row a, more with
    | (warnings, .error message), _ => (warnings, .error message)
    | (warnings, .ok first), [] => (warnings, (checkFirst first).map fun _ => (first, none))
    | (warnings, .ok first), b :: _ =>
      let (later, second) := row b
      (warnings ++ later,
        match second with
        | .error message => .error message
        | .ok second =>
          match checkFirst first with
          | .error message => .error message
          | .ok () => (k.second first second).map fun second => (first, some second))

def Effect.run (e : Effect) (c : Call) : Work Unit := do
  let failing (cause : SystemError) : Work Unit :=
    Work.fail c 1 ("read error: ".toList ++ cause.wording)
  match ← Work.openOperand c ['-'] with
  | .error cause => failing cause
  | .ok number => do
    let (fault, _) ← Work.forBlocks number (fun last data => do
      let (data, last) := e.apply last data
      Work.failOn c 1 "write error".toList (← Work.tryPrint c data)
      return last) none
    match fault with
    | some cause => failing cause
    | none => return

def work (c : Call) : Work Unit := do
  let (all, fault) := known.withCommon.read true (c.args.length + 1) c.args
  let args := Arguments.ofList known c.name all fault
  let operands := args.operands
  let task := args.options.foldl (fun (t : Task) o => t.add o.1) {}
  match args.ending, task.operandFault operands with
  | some ending, _ => Work.conclude c 1 ending
  | none, some (message, lines) => do
    Work.deliver c (c.complaint message :: lines.map c.remark ++ [c.advice])
    Work.setStatus 1
  | none, none => do
    let (warnings, rows) := task.rows operands
    Work.deliver c (warnings.map c.complaint)
    match rows with
    | .error message => Work.fail c 1 message
    | .ok (first, second) => (task.effect first second).run c

end Translate

def tr : Utility := Manner.utility {} Translate.work

end PipelineShell.Userland
