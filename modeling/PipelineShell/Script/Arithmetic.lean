import PipelineShell.Text.Chars

/-!
# Arithmetic expressions

Integers of 64 bits that wrap around, variables and assignments. An operand that is not needed is
parsed but not evaluated.
-/

namespace PipelineShell.Script.Arithmetic

/-- The operators between two operands. -/
inductive Binary
  | times | divide | modulo | plus | minus | shiftLeft | shiftRight
  | less | lessEqual | greater | greaterEqual | equal | unequal | and | xor | or
  deriving DecidableEq, Repr

def Binary.rank : Binary → Nat
  | .times | .divide | .modulo => 0
  | .plus | .minus => 1
  | .shiftLeft | .shiftRight => 2
  | .less | .lessEqual | .greater | .greaterEqual => 3
  | .equal | .unequal => 4
  | .and => 5
  | .xor => 6
  | .or => 7

/-- A token. -/
inductive Token
  | finish
  | bad
  | number (n : Int)
  | variable (name : Chars)
  | binary (op : Binary)
  | assign (op : Option Binary)
  | opening | closing | question | colon | both | either | not | complement
  deriving DecidableEq, Repr

def wrap (n : Int) : Int := n.bmod 0x10000000000000000

def greatest : Int := 9223372036854775807

def digit? (base : Nat) (c : Char) : Option Nat :=
  let n :=
    if c.isDigit then c.toNat - 48
    else if 'a' ≤ c && c ≤ 'z' then c.toNat - 87
    else if 'A' ≤ c && c ≤ 'Z' then c.toNat - 55
    else 99
  if n < base then some n else none

def digits (base : Nat) (t : Chars) : Nat × Chars :=
  let row := t.takeWhile fun c => (digit? base c).isSome
  (row.foldl (fun n c => base * n + (digit? base c).getD 0) 0, t.drop row.length)

/-- A number without sign at the beginning of a text, octal behind a zero and hexadecimal behind
`0x`, and what is behind it. -/
def literal (t : Chars) : Nat × Chars :=
  match t with
  | '0' :: x :: c :: rest =>
    if (x = 'x' || x = 'X') && (digit? 16 c).isSome then digits 16 (c :: rest) else digits 8 t
  | '0' :: _ => digits 8 t
  | _ => digits 10 t

/-- The number that a text spells, with blanks around it and a sign. An empty text spells zero in
base 0, the base in which the text itself says its base. -/
def spelled? (base : Nat) (t : Chars) : Option Int :=
  let isBlank (c : Char) : Bool := c = ' ' || ('\t' ≤ c && c ≤ '\x0d')
  let start := t.dropWhile isBlank
  let (negative, body) : Bool × Chars :=
    match start with
    | '-' :: body => (true, body)
    | '+' :: body => (false, body)
    | body => (false, body)
  let found := (body.head?.bind (digit? (if base = 0 then 10 else base))).isSome
  let (n, rest) := if base = 0 then literal body else digits base body
  let value : Int := if negative then -n else n
  if !found then if base = 0 && start.isEmpty then some 0 else none
  else if !(rest.dropWhile isBlank).isEmpty then none
  else if value < -greatest - 1 || greatest < value then none
  else some value

/-- What an expression reads variables from. -/
structure Memory where
  value? : Chars → Option Chars
  isReadonly : Chars → Bool

/-- Where the evaluation of an expression is. -/
structure State where
  rest : Chars
  last : Token := .finish
  assigned : List (Chars × Int) := []

/-- Why an expression has no value. -/
inductive Fault
  | wrong (message : Chars)
  | overflow
  deriving DecidableEq, Repr

abbrev Evaluation := StateT State (Except Fault)

def isNameChar (c : Char) : Bool := c.isAlphanum || c = '_'

def scan (t : Chars) : Token × Chars :=
  let assigning (op : Binary) (rest : Chars) : Token × Chars :=
    match rest with
    | '=' :: rest => (.assign (some op), rest)
    | rest => (.binary op, rest)
  match t.dropWhile fun c => c = ' ' || c = '\t' || c = '\n' with
  | [] => (.finish, [])
  | c :: rest =>
    if c.isDigit then
      let (n, rest) := literal (c :: rest)
      (.number (min (n : Int) greatest), rest)
    else if isNameChar c then
      let name := c :: rest.takeWhile isNameChar
      (.variable name, rest.drop (name.length - 1))
    else
      match c, rest with
      | '=', '=' :: rest => (.binary .equal, rest)
      | '=', rest => (.assign none, rest)
      | '>', '=' :: rest => (.binary .greaterEqual, rest)
      | '>', '>' :: rest => assigning .shiftRight rest
      | '>', rest => (.binary .greater, rest)
      | '<', '=' :: rest => (.binary .lessEqual, rest)
      | '<', '<' :: rest => assigning .shiftLeft rest
      | '<', rest => (.binary .less, rest)
      | '|', '|' :: rest => (.either, rest)
      | '|', rest => assigning .or rest
      | '&', '&' :: rest => (.both, rest)
      | '&', rest => assigning .and rest
      | '!', '=' :: rest => (.binary .unequal, rest)
      | '!', rest => (.not, rest)
      | '(', rest => (.opening, rest)
      | ')', rest => (.closing, rest)
      | '*', rest => assigning .times rest
      | '/', rest => assigning .divide rest
      | '%', rest => assigning .modulo rest
      | '+', rest => assigning .plus rest
      | '-', rest => assigning .minus rest
      | '^', rest => assigning .xor rest
      | '~', rest => (.complement, rest)
      | '?', rest => (.question, rest)
      | ':', rest => (.colon, rest)
      | _, _ => (.bad, c :: rest)

def next : Evaluation Token := do
  let s ← get
  let (t, rest) := scan s.rest
  set { s with rest }
  return t

def put (last : Token) : Evaluation Unit := modify fun s => { s with last }

def fail {α : Type} (whole : Chars) (message : String) : Evaluation α :=
  throw (.wrong
    ("arithmetic expression: ".toList ++ message.toList ++ ": \"".toList ++ whole ++ ['"']))

def valueOf (m : Memory) (name : Chars) : Evaluation Int := do
  match (← get).assigned.lookup name with
  | some n => return n
  | none =>
    let t := (m.value? name).getD []
    match spelled? 0 t with
    | some n => return n
    | none => throw (.wrong ("Illegal number: ".toList ++ t))

def assignTo (m : Memory) (name : Chars) (n : Int) : Evaluation Unit := do
  if m.isReadonly name then throw (.wrong (name ++ ": is read only".toList))
  modify fun s => { s with assigned := (name, n) :: s.assigned }

def ofBool (b : Bool) : Int := if b then 1 else 0

def bits (n : Int) : Nat := (n % 0x10000000000000000).toNat

def checkQuotient (whole : Chars) (a b : Int) : Evaluation Unit := do
  if b = 0 then fail whole "division by zero"
  if b = -1 && a = -0x8000000000000000 then throw .overflow

def apply (whole : Chars) (op : Binary) (a b : Int) : Evaluation Int :=
  match op with
  | .times => return wrap (a * b)
  | .divide => do
    checkQuotient whole a b
    return wrap (a.tdiv b)
  | .modulo => do
    checkQuotient whole a b
    return wrap (a.tmod b)
  | .plus => return wrap (a + b)
  | .minus => return wrap (a - b)
  | .shiftLeft => return wrap (a * Int.pow 2 (bits b % 64))
  | .shiftRight => return a / Int.pow 2 (bits b % 64)
  | .less => return ofBool (a < b)
  | .lessEqual => return ofBool (a ≤ b)
  | .greater => return ofBool (a > b)
  | .greaterEqual => return ofBool (a ≥ b)
  | .equal => return ofBool (a = b)
  | .unequal => return ofBool (a ≠ b)
  | .and => return wrap (bits a &&& bits b)
  | .xor => return wrap (bits a ^^^ bits b)
  | .or => return wrap (bits a ||| bits b)

def Token.binary? : Token → Option Binary
  | .binary op => some op
  | _ => none

section

variable (m : Memory) (whole : Chars)

mutual

def operand : Nat → (token then_ : Token) → (skip : Bool) → Evaluation Int
  | 0, _, _, _ => fail whole "expecting primary"
  | fuel + 1, token, then_, skip => do
    match token with
    | .opening =>
      let n ← assignment fuel then_ skip
      if (← get).last ≠ .closing then fail whole "expecting ')'"
      put (← next)
      return n
    | .number n =>
      put then_
      return n
    | .variable name =>
      put then_
      if skip then return 0 else valueOf m name
    | .binary .plus => operand fuel then_ (← next) skip
    | .binary .minus => return wrap (-(← operand fuel then_ (← next) skip))
    | .not => return ofBool ((← operand fuel then_ (← next) skip) = 0)
    | .complement => return -(← operand fuel then_ (← next) skip) - 1
    | _ => fail whole "expecting primary"

def chain : Nat → Int → Binary → (rank : Nat) → (skip : Bool) → Evaluation Int
  | 0, a, _, _, _ => return a
  | fuel + 1, a, op, rank, skip => do
    let token ← next
    let b ← operand fuel token (← next) skip
    let b ←
      match (← get).last.binary? with
      | some op' => if op'.rank < op.rank then chain fuel b op' op.rank skip else pure b
      | none => pure b
    let a ← if skip then pure b else apply whole op a b
    match (← get).last.binary? with
    | some op' => if op'.rank ≥ rank then return a else chain fuel a op' rank skip
    | none => return a

def operation : Nat → (token then_ : Token) → (skip : Bool) → Evaluation Int
  | 0, _, _, _ => fail whole "expecting primary"
  | fuel + 1, token, then_, skip => do
    let a ← operand fuel token then_ skip
    match (← get).last.binary? with
    | some op => chain fuel a op 8 skip
    | none => return a

def conjunction : Nat → (token then_ : Token) → (skip : Bool) → Evaluation Int
  | 0, _, _, _ => fail whole "expecting primary"
  | fuel + 1, token, then_, skip => do
    let a ← operation fuel token then_ skip
    if (← get).last ≠ .both then return a
    let token ← next
    let b ← conjunction fuel token (← next) (skip || a = 0)
    return ofBool (a ≠ 0 && b ≠ 0)

def disjunction : Nat → (token then_ : Token) → (skip : Bool) → Evaluation Int
  | 0, _, _, _ => fail whole "expecting primary"
  | fuel + 1, token, then_, skip => do
    let a ← conjunction fuel token then_ skip
    if (← get).last ≠ .either then return a
    let token ← next
    let b ← disjunction fuel token (← next) (skip || a ≠ 0)
    return ofBool (a ≠ 0 || b ≠ 0)

def choice : Nat → (token then_ : Token) → (skip : Bool) → Evaluation Int
  | 0, _, _, _ => fail whole "expecting primary"
  | fuel + 1, token, then_, skip => do
    let a ← disjunction fuel token then_ skip
    if (← get).last ≠ .question then return a
    let b ← assignment fuel (← next) (skip || a = 0)
    if (← get).last ≠ .colon then fail whole "expecting ':'"
    let token ← next
    let c ← choice fuel token (← next) (skip || a ≠ 0)
    return if a ≠ 0 then b else c

def assignment : Nat → (token : Token) → (skip : Bool) → Evaluation Int
  | 0, _, _ => fail whole "expecting primary"
  | fuel + 1, token, skip => do
    let then_ ← next
    match token, then_ with
    | .variable name, .assign op =>
      let n ← assignment fuel (← next) skip
      if skip then return n
      let n ←
        match op with
        | none => pure n
        | some op => do apply whole op (← valueOf m name) n
      assignTo m name n
      return n
    | _, _ => choice fuel token then_ skip

end
end

def evaluate (m : Memory) (t : Chars) : Except Fault (Int × List (Chars × Int)) :=
  let run : Evaluation Int := do
    let n ← assignment m t (10 * t.length + 100) (← next) false
    if (← get).last ≠ .finish then fail t "expecting EOF"
    return n
  match run.run { rest := t } with
  | .ok (n, s) => .ok (n, s.assigned.reverse)
  | .error fault => .error fault

end PipelineShell.Script.Arithmetic
