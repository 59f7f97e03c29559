import PipelineShell.Userland.Regex.Selection

/-!
# Expressions that find parts

The stricter reading of an expression that is used to find the matching part of a line, with back
references.
-/

namespace PipelineShell.Userland.Regex.Location

/-- Where the reader is. -/
structure Cursor where
  before : Option Char := none
  rest : Chars
  opened : Nat := 0
  complete : List Nat := []

/-- A part of an expression. -/
inductive Token
  | finish
  | symbol (c : Char) (escaped : Bool)
  | kind (p : Char → Bool)
  | spot (s : Spot)
  | bracket
  | star
  | plus
  | optional
  | brace
  | closingBrace
  | opening
  | closing
  | bar
  | back (n : Nat)
  | backslash

def Cursor.move (k : Cursor) (c : Char) (rest : Chars) : Cursor := { k with before := some c, rest }

/-- The token at the beginning of a text, and what is behind it; `atStart` tells that a caret means
the start of a line here. -/
def peek (m : Manner) (atStart : Bool) (before : Option Char) : Chars → Token × Char × Chars
  | [] => (.finish, ' ', [])
  | ['\\'] => (.backslash, '\\', [])
  | '\\' :: c :: rest =>
    let t : Token :=
      match c with
      | '|' => if m.extended then .symbol c true else .bar
      | '(' => if m.extended then .symbol c true else .opening
      | ')' => if m.extended then .symbol c true else .closing
      | '+' => if m.extended then .symbol c true else .plus
      | '?' => if m.extended then .symbol c true else .optional
      | '\x7b' => if m.extended then .symbol c true else .brace
      | '\x7d' => if m.extended then .symbol c true else .closingBrace
      | c =>
        match m.kind? true c, spot? c with
        | some p, _ => .kind p
        | none, some s => .spot s
        | none, none =>
          if '1' ≤ c && c ≤ '9' then .back (c.toNat - 48) else .symbol c true
    (t, c, rest)
  | c :: rest =>
    let ifExtended (t : Token) : Token := if m.extended then t else .symbol c false
    let t : Token :=
      match c with
      | '\n' => .bar
      | '|' => ifExtended .bar
      | '*' => .star
      | '+' => ifExtended .plus
      | '?' => ifExtended .optional
      | '\x7b' => ifExtended .brace
      | '\x7d' => ifExtended .closingBrace
      | '(' => ifExtended .opening
      | ')' => ifExtended .closing
      | '[' => .bracket
      | '.' => .kind isDecoded
      | '^' =>
        if m.extended || atStart || before.isNone || before = some '\n' then .spot .lineStart
        else .symbol c false
      | '$' => if Selection.isLineEnd m rest then .spot .lineEnd else .symbol c false
      | c => .symbol c false
    (t, c, rest)

def next (m : Manner) (atStart : Bool) (k : Cursor) : Token × Cursor :=
  let (t, c, rest) := peek m atStart k.before k.rest
  (t, k.move c rest)

/-- A number in an interval as it is read: none if there is nothing, and nothing if it is something
else or the expression ends. -/
abbrev Count := Option (Option Nat)

/-- Reads a number in an interval up to a comma or the closing brace, with the token that ends it;
the length of the text bounds the steps. -/
def count (m : Manner) : (fuel : Nat) → Count → Cursor → Count × Token × Cursor
  | 0, _, k => (none, .finish, k)
  | fuel + 1, n, k =>
    let (t, k) := next m false k
    match t with
    | .finish => (none, t, k)
    | .closingBrace => (n, t, k)
    | t =>
      if k.before = some ',' then (n, t, k)
      else
        let digit : Option Nat :=
          match t with
          | .symbol c _ => if c.isDigit then some (c.toNat - 48) else none
          | _ => none
        let n : Count :=
          match n, digit with
          | some n, some d => some (some (min (Selection.greatestCount + 1) (10 * n.getD 0 + d)))
          | _, _ => none
        count m fuel n k

def badInterval : Chars := "Invalid content of \\\x7b\\\x7d".toList

def interval (m : Manner) (k : Cursor) : Except Chars (Option (Nat × Option Nat × Cursor)) :=
  let fuel := k.rest.length + 1
  let isComma (t : Token) (k : Cursor) : Bool :=
    match t with
    | .symbol ',' _ => k.before = some ','
    | _ => false
  let isFinish (t : Token) : Bool :=
    match t with
    | .finish => true
    | _ => false
  let isClosing (t : Token) : Bool :=
    match t with
    | .closingBrace => true
    | _ => false
  let failing (t : Token) : Except Chars (Option (Nat × Option Nat × Cursor)) :=
    if m.extended then .ok none
    else .error (if isFinish t then "Unmatched \\\x7b".toList else badInterval)
  let check (least : Nat) (most : Option Nat) (t : Token) (k : Cursor) :
      Except Chars (Option (Nat × Option Nat × Cursor)) :=
    if most.any (· < least) || !isClosing t then .error badInterval
    else if Selection.greatestCount < most.getD least then .error "Regular expression too big".toList
    else .ok (some (least, most, k))
  let (first, t, k) := count m fuel (some none) k
  match first with
  | none => failing t
  | some first =>
    if first.isNone && !isComma t k then .error badInterval
    else if isClosing t then check (first.getD 0) first t k
    else if isComma t k then
      match count m fuel (some none) k with
      | (none, t, _) => failing t
      | (some most, t, k) => check (first.getD 0) most t k
    else failing t

def openGroup : Chars := "Unmatched ( or \\(".toList

abbrev Reading := Regex × Token × Cursor

def andNext (m : Manner) (r : Regex) (k : Cursor) : Reading :=
  let (t, k) := next m false k
  (r, t, k)

def isEnd (depth : Nat) : Token → Bool
  | .finish | .bar => true
  | .closing => depth > 0
  | _ => false

mutual

/-- Reads alternatives up to the end or the closing of a group. Groups of other alternatives than
its own cannot be referred back to. -/
def alternatives (m : Manner) : (fuel : Nat) → (depth : Nat) → (before : List Nat) → Token →
    Cursor → Except Chars Reading
  | 0, _, _, _, _ => .error openGroup
  | fuel + 1, depth, before, t, k =>
    match branch m fuel depth t k with
    | .error e => .error e
    | .ok (r, .bar, k) =>
      let complete := k.complete
      let (t, k) := next m true { k with complete := before }
      if isEnd depth t then
        match t with
        | .bar =>
          (alternatives m fuel depth before t { k with complete }).map fun (s, t, k) =>
            (.either r s, t, k)
        | t => .ok (.either r .empty, t, { k with complete })
      else
        (alternatives m fuel depth before t k).map fun (s, t, k) =>
          (.either r s, t, { k with complete := k.complete ++ complete })
    | .ok reading => .ok reading

def branch (m : Manner) : (fuel : Nat) → (depth : Nat) → Token → Cursor → Except Chars Reading
  | 0, _, _, _ => .error openGroup
  | fuel + 1, depth, t, k =>
    match item m fuel depth t k with
    | .error e => .error e
    | .ok (r, t, k) =>
      if isEnd depth t then .ok (r, t, k)
      else (branch m fuel depth t k).map fun (s, t, k) => (.append r s, t, k)

def item (m : Manner) : (fuel : Nat) → (depth : Nat) → Token → Cursor → Except Chars Reading
  | 0, _, _, _ => .error openGroup
  | fuel + 1, depth, t, k =>
    let plain (c : Char) (escaped : Bool) : Except Chars Reading :=
      let r : Regex :=
        if m.fold && escaped then .one fun x => upper m.wide x = c else m.literal c
      let (r, t, k) := andNext m r k
      repeated m fuel r t k
    let passing (c : Char) : Except Chars Reading :=
      if m.extended then
        let (t, k) := next m false k
        item m fuel depth t k
      else plain c true
    match t with
    | .symbol c escaped => plain c escaped
    | .kind p =>
      let (r, t, k) := andNext m (.one p) k
      repeated m fuel r t k
    | .spot s => .ok (andNext m (.spot s) k)
    | .bracket =>
      match m.bracket k.rest with
      | .error e => .error e
      | .ok (p, rest) =>
        let (r, t, k) := andNext m (.one p) (k.move ']' rest)
        repeated m fuel r t k
    | .back n =>
      if k.complete.contains n then
        let (r, t, k) := andNext m (.back n) k
        repeated m fuel r t k
      else .error "Invalid back reference".toList
    | .opening =>
      let n := k.opened + 1
      let (t, k) := next m true { k with opened := n }
      let inner : Except Chars Reading :=
        match t with
        | .closing => .ok (.empty, t, k)
        | t => alternatives m fuel (depth + 1) k.complete t k
      match inner with
      | .ok (r, .closing, k) =>
        let (r, t, k) := andNext m (.group n r) { k with complete := n :: k.complete }
        repeated m fuel r t k
      | .ok _ => .error openGroup
      | .error e => .error e
    | .star => passing '*'
    | .plus => passing '+'
    | .optional => passing '?'
    | .brace => passing '\x7b'
    | .closing => if m.extended then plain ')' false else .error "Unmatched ) or \\)".toList
    | .closingBrace => plain '\x7d' false
    | .backslash => .error "Trailing backslash".toList
    | .finish | .bar => .ok (.empty, t, k)

def repeated (m : Manner) : (fuel : Nat) → Regex → Token → Cursor → Except Chars Reading
  | 0, _, _, _ => .error openGroup
  | fuel + 1, r, t, k =>
    let goOn (r : Regex) (k : Cursor) : Except Chars Reading :=
      let (r, t, k) := andNext m r k
      repeated m fuel r t k
    match t with
    | .star => goOn (.star r) k
    | .plus => goOn (.times r 1 none) k
    | .optional => goOn (.times r 0 (some 1)) k
    | .brace =>
      match interval m k with
      | .error e => .error e
      | .ok none => .ok (r, .symbol '\x7b' false, k)
      | .ok (some (least, most, k)) =>
        goOn (if most = some 0 then .empty else .times r least most) k
    | t => .ok (r, t, k)

end

def read (m : Manner) (t : Chars) : Except Chars Regex :=
  let (first, k) := next m true { rest := t }
  match alternatives m (8 * t.length + 16) 0 [] first k with
  | .ok (r, _, _) => .ok r
  | .error e => .error e

def mayReferBack : Chars → Bool
  | '\\' :: c :: rest => ('1' ≤ c && c ≤ '9') || mayReferBack rest
  | _ :: rest => mayReferBack rest
  | [] => false

end PipelineShell.Userland.Regex.Location
