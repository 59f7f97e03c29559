import PipelineShell.FileSystem.Tree
import PipelineShell.Script.Shell
import PipelineShell.Text.Chars

/-!
# The command that tests

`test` evaluates a condition on texts, numbers and files. With few arguments, what an argument means
depends on how many there are.
-/

namespace PipelineShell.Script.Command

open Script.Shell Userland

namespace Condition

/-- What an argument may be besides an operand. -/
inductive Operator
  | unary (letter : Char)
  | binary (name : Chars)
  | not | and | or | opening | closing
  deriving DecidableEq, Repr

def binaries : List Chars :=
  ["=", "!=", "<", ">", "-eq", "-ne", "-gt", "-ge", "-lt", "-le", "-nt", "-ot", "-ef"].map
    String.toList

def operator? (t : Chars) : Option Operator :=
  if binaries.contains t then some (.binary t)
  else
    match t with
    | ['!'] => some .not
    | ['('] => some .opening
    | [')'] => some .closing
    | ['-', 'a'] => some .and
    | ['-', 'o'] => some .or
    | ['-', c] => if "rwxefdcbpugkstznhLOGS".toList.contains c then some (.unary c) else none
    | _ => none

def isBinary (t : Chars) : Bool :=
  match operator? t with
  | some (.binary _) => true
  | _ => false

/-- What the first of some arguments is taken for: nothing at their end, an operand, or an
operator. -/
inductive Sign
  | finish
  | operand
  | operator (op : Operator)
  deriving DecidableEq, Repr

/-- What the first of some arguments is taken for. An operator with one operand is itself an operand
where it has none, or where an operator with two operands follows. -/
def sign : List Chars → Sign
  | [] => .finish
  | t :: rest =>
    match operator? t, rest with
    | none, _ => .operand
    | some (.unary _), [] => .operand
    | some (.unary c), [_] => .operator (.unary c)
    | some (.unary c), next :: _ => if isBinary next then .operand else .operator (.unary c)
    | some .opening, [] => .operand
    | some op, _ => .operator op

def integer (t : Chars) : Run Int :=
  match Arithmetic.spelled? 10 t with
  | some n => return n
  | none => badNumber t

def holds (s : Shell) (letter : Char) (operand : Chars) : Bool :=
  let t := path operand
  if letter = 'h' || letter = 'L' then
    match s.files.bare? s.cwd t with
    | .ok (.link _) => true
    | _ => false
  else
    match s.machine.entry? s.descriptors s.cwd t with
    | .error _ => false
    | .ok none => "perwOG".toList.contains letter
    | .ok (some entry) =>
      let mode : Mode := entry.mode?.getD 0
      match letter, entry with
      | 'f', .file _ _ | 'f', .program _ => true
      | 'd', .directory _ => true
      | 'c', .device _ => true
      | 's', .file content _ => content.size > 0
      | 's', .directory _ | 's', .program _ => true
      | 'x', entry => entry.isDirectory || entry.isExecutable
      | 'e', _ | 'r', _ | 'w', _ | 'O', _ | 'G', _ => true
      | 'u', _ => mode &&& 0o4000 ≠ 0
      | 'g', _ => mode &&& 0o2000 ≠ 0
      | 'k', _ => mode &&& 0o1000 ≠ 0
      | _, _ => false

def unary (letter : Char) (operand : Chars) : Run Bool := do
  match letter with
  | 'z' => return operand.isEmpty
  | 'n' => return !operand.isEmpty
  | 't' =>
    let _ ← integer operand
    return false
  | letter => return holds (← get) letter operand

def binary (name left right : Chars) : Run Bool := do
  let compare (p : Int → Int → Bool) : Run Bool := do
    let a ← integer left
    return p a (← integer right)
  if name = "=".toList then return left = right
  if name = "!=".toList then return left ≠ right
  if name = "<".toList then return left ≠ right && Chars.le left right
  if name = ">".toList then return left ≠ right && Chars.le right left
  if name = "-eq".toList then compare (· = ·)
  else if name = "-ne".toList then compare (· ≠ ·)
  else if name = "-gt".toList then compare (· > ·)
  else if name = "-ge".toList then compare (· ≥ ·)
  else if name = "-lt".toList then compare (· < ·)
  else if name = "-le".toList then compare (· ≤ ·)
  else if name = "-ef".toList then
    let s ← get
    match s.files.locate s.cwd (path left), s.files.locate s.cwd (path right) with
    | .ok p, .ok q => return p = q && (s.files.get? p).isSome
    | _, _ => return false
  else return false

abbrev Result := Bool × List Chars

mutual

def either : Nat → List Chars → Run Result
  | 0, args => return (false, args)
  | fuel + 1, args => do
    let (a, args) ← all fuel args
    match sign (args.drop 1) with
    | .operator .or =>
      let (b, args) ← either fuel (args.drop 2)
      return (a || b, args)
    | _ => return (a, args)

def all : Nat → List Chars → Run Result
  | 0, args => return (false, args)
  | fuel + 1, args => do
    let (a, args) ← negated fuel args
    match sign (args.drop 1) with
    | .operator .and =>
      let (b, args) ← all fuel (args.drop 2)
      return (a && b, args)
    | _ => return (a, args)

def negated : Nat → List Chars → Run Result
  | 0, args => return (false, args)
  | fuel + 1, args => do
    match sign args with
    | .operator .not =>
      let (b, args) ← negated fuel (if args.length > 1 then args.drop 1 else args.drop args.length)
      return (!b, args)
    | _ => primary fuel args

def primary : Nat → List Chars → Run Result
  | 0, args => return (false, args)
  | fuel + 1, args => do
    match sign args, args with
    | .finish, _ | _, [] => return (false, args)
    | .operator .opening, _ :: inner =>
      if sign inner = .operator .closing then return (false, inner)
      let (b, args) ← either fuel inner
      if sign (args.drop 1) ≠ .operator .closing then fail "closing paren expected".toList
      return (b, args.drop 1)
    | .operator (.unary letter), name :: rest =>
      match rest with
      | [] => fail (name ++ ": argument expected".toList)
      | operand :: _ => return (← unary letter operand, rest)
    | _, left :: rest =>
      match rest with
      | [] => return (!left.isEmpty, args)
      | name :: more =>
        if sign rest = .operator (.binary name) then
          match more with
          | [] => fail (name ++ ": argument expected".toList)
          | right :: _ => return (← binary name left right, more)
        else return (!left.isEmpty, args)

end

def evaluate : List Chars → Run Bool
  | [] => return false
  | args => do
    let bare :=
      match args with
      | [a, b, _] => if isBinary b then args else if a = ['('] && args.getLast? = some [')'] then [b]
        else args
      | [a, b, c, d] => if a = ['('] && d = [')'] then [b, c] else args
      | args => args
    let (b, rest) ←
      match args with
      | [left, name, right] =>
        if isBinary name then do pure (← binary name left right, [right])
        else either (4 * bare.length + 4) bare
      | _ => either (4 * bare.length + 4) bare
    match rest with
    | last :: _ :: _ => fail (last ++ ": unexpected operator".toList)
    | _ => return b

end Condition

def test (name : Chars) (args : List Chars) : Run Int := do
  let args ←
    if name = ['['] then
      match args.getLast? with
      | some (']' :: _) => pure args.dropLast
      | _ => fail "missing ]".toList
    else pure args
  return if ← Condition.evaluate args then 0 else 1

end PipelineShell.Script.Command
