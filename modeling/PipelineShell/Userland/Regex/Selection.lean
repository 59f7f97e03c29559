import PipelineShell.Userland.Regex.Bracket

/-!
# Expressions that select lines

Basic and extended expressions, as they are read to select lines; each line of the pattern is an
alternative.
-/

namespace PipelineShell.Userland.Regex.Selection

/-- What has been read last. -/
inductive Last
  | nothing
  | opening
  | bar
  | other
  deriving DecidableEq

/-- Where the reader is. -/
structure Cursor where
  rest : Chars
  fresh : Bool := true
  last : Last := .nothing
  depth : Nat := 0
  warnings : List Chars := []
  searches : Bool := false

/-- A part of an expression. -/
inductive Token
  | finish
  | atom (r : Regex)
  | star
  | plus
  | optional
  | interval (least : Nat) (most : Option Nat)
  | opening
  | closing
  | bar

def greatestCount : Nat := 32767

def number (t : Chars) : Option Nat × Chars :=
  let digits := t.takeWhile Char.isDigit
  (if digits.isEmpty then none
    else some (digits.foldl (fun n c =>
      min (greatestCount + 1) (10 * n + (c.toNat - 48))) 0), t.drop digits.length)

/-- An interval behind its opening brace: the numbers, none for no limit, and what is behind it;
nothing if it makes no sense. -/
def interval? (extended : Bool) (t : Chars) : Option (Nat × Option Nat × Chars) :=
  let (first, t) := number t
  let (least, most, t) : Option Nat × Option Nat × Chars :=
    match t with
    | ',' :: t =>
      let (second, t) := number t
      (some (first.getD 0), second, t)
    | t => (first, first, t)
  let t : Option Chars :=
    if extended then some t else if t.head? = some '\\' then some (t.drop 1) else none
  match least, t with
  | some least, some ('\x7d' :: t) =>
    if most.all (least ≤ ·) then some (least, most, t) else none
  | _, _ => none

namespace Cursor

def past (k : Cursor) (rest : Chars) : Cursor := { k with rest, fresh := false, last := .other }

def beyond (k : Cursor) (rest : Chars) : Cursor := { k with rest, last := .other }

def warn (k : Cursor) (what : String) : Cursor :=
  { k with
    warnings :=
      k.warnings ++ ["warning: ".toList ++ what.toList ++ " at start of expression".toList] }

end Cursor

def isLineEnd (m : Manner) (rest : Chars) : Bool :=
  m.extended || rest.isEmpty || ['\\', ')'].isPrefixOf rest || ['\\', '|'].isPrefixOf rest ||
    rest.head? = some '\n'

def loneClass : Chars := "character class syntax is [[:space:]], not [:space:]".toList

def anything : Regex := .star (.one fun _ => true)

def special (m : Manner) (k : Cursor) (escaped : Bool) (c : Char) (rest : Chars) :
    Except Chars (Token × Cursor) :=
  let active : Bool := escaped != m.extended
  let plain : Except Chars (Token × Cursor) := .ok (.atom (m.literal c), k.past rest)
  let spot (s : Spot) : Except Chars (Token × Cursor) :=
    let searches : Bool := m.wide && s ≠ .lineStart && s ≠ .lineEnd
    .ok (.atom (if searches then .empty else .spot s),
      { k.beyond rest with searches := k.searches || searches })
  let repetition (sign : String) (t : Token) : Except Chars (Token × Cursor) :=
    if !k.fresh then .ok (t, k.beyond rest)
    else if m.extended then .ok (t, (k.beyond rest).warn sign)
    else plain
  match c with
  | '\n' => .ok (.bar, { k with rest, fresh := true, last := .bar })
  | '^' => if !escaped && (m.extended || k.last ≠ .other) then spot .lineStart else plain
  | '$' => if !escaped && isLineEnd m rest then spot .lineEnd else plain
  | '*' => if escaped then plain else repetition "*" .star
  | '+' => if active then repetition "+" .plus else plain
  | '?' => if active then repetition "?" .optional else plain
  | '\x7b' =>
    if !active then plain
    else
      match interval? m.extended rest with
      | none =>
        if m.extended || k.fresh then plain else .error "invalid content of \\\x7b\\\x7d".toList
      | some (least, most, after) =>
        if k.fresh && !m.extended then plain
        else if greatestCount < most.getD 0 then .error "regular expression too big".toList
        else
          let k := if k.fresh then k.warn "\x7b...\x7d" else k
          .ok (.interval least most, k.past after)
  | '|' => if active then .ok (.bar, { k with rest, fresh := true, last := .bar }) else plain
  | '(' =>
    if active then
      .ok (.opening, { k with rest, fresh := true, last := .opening, depth := k.depth + 1 })
    else plain
  | ')' =>
    if !active || (m.extended && k.depth = 0) then plain
    else .ok (.closing, { k.past rest with depth := k.depth - 1 })
  | '[' =>
    if escaped then plain
    else
      match m.closedBracket rest with
      | .error e => .error e
      | .ok (p, after) =>
        if isLoneClass rest after then .error loneClass
        else
          .ok (.atom (if m.wide then anything else .one p),
            { k.past after with searches := k.searches || m.wide })
  | c =>
    match m.kind? escaped c, if escaped then spot? c else none with
    | some p, _ =>
      let searches : Bool := m.wide && escaped
      .ok (.atom (if searches then anything else .one p),
        { k.past rest with searches := k.searches || searches })
    | none, some s => spot s
    | none, none =>
      if escaped && '1' ≤ c && c ≤ '9' then
        .ok (.atom anything, { k.past rest with searches := true })
      else plain

def token (m : Manner) (k : Cursor) : Except Chars (Token × Cursor) :=
  match k.rest with
  | [] => .ok (.finish, k)
  | ['\\'] => .error "unfinished \\ escape".toList
  | '\\' :: c :: rest => special m k true c rest
  | c :: rest => special m k false c rest

abbrev Reading := Regex × Token × Cursor

def andNext (m : Manner) (r : Regex) (k : Cursor) : Except Chars Reading :=
  (token m k).map fun (t, k) => (r, t, k)

mutual

def alternatives (m : Manner) : (fuel : Nat) → Token → Cursor → Except Chars Reading
  | 0, _, _ => .error "regular expression too big".toList
  | fuel + 1, t, k =>
    match branch m fuel t k with
    | .error e => .error e
    | .ok (r, .bar, k) =>
      match token m k with
      | .error e => .error e
      | .ok (t, k) => (alternatives m fuel t k).map fun (s, t, k) => (.either r s, t, k)
    | .ok reading => .ok reading

def branch (m : Manner) : (fuel : Nat) → Token → Cursor → Except Chars Reading
  | 0, _, _ => .error "regular expression too big".toList
  | fuel + 1, t, k =>
    match closure m fuel t k with
    | .error e => .error e
    | .ok (r, t, k) =>
      match t with
      | .finish | .bar | .closing => .ok (r, t, k)
      | _ => (branch m fuel t k).map fun (s, t, k) => (.append r s, t, k)

def closure (m : Manner) : (fuel : Nat) → Token → Cursor → Except Chars Reading
  | 0, _, _ => .error "regular expression too big".toList
  | fuel + 1, t, k =>
    match atom m fuel t k with
    | .error e => .error e
    | .ok (r, t, k) => repeated m fuel r t k

def atom (m : Manner) : (fuel : Nat) → Token → Cursor → Except Chars Reading
  | 0, _, _ => .error "regular expression too big".toList
  | fuel + 1, t, k =>
    match t with
    | .atom r => andNext m r k
    | .opening =>
      match token m k with
      | .error e => .error e
      | .ok (t, k) =>
        match alternatives m fuel t k with
        | .ok (r, .closing, k) => andNext m r k
        | .ok _ => .error "unbalanced (".toList
        | .error e => .error e
    | t => .ok (.empty, t, k)

def repeated (m : Manner) : (fuel : Nat) → Regex → Token → Cursor → Except Chars Reading
  | 0, _, _, _ => .error "regular expression too big".toList
  | fuel + 1, r, t, k =>
    let goOn (r : Regex) : Except Chars Reading :=
      match token m k with
      | .error e => .error e
      | .ok (t, k) => repeated m fuel r t k
    match t with
    | .star => goOn (.star r)
    | .plus => goOn (.times r 1 none)
    | .optional => goOn (.times r 0 (some 1))
    | .interval least most => goOn (.times r least most)
    | t => .ok (r, t, k)

end

/-- What a whole expression comes to. -/
structure Outcome where
  regex : Regex
  warnings : List Chars
  searches : Bool

def read (m : Manner) (t : Chars) : Except Chars Outcome :=
  match token m { rest := t } with
  | .error e => .error e
  | .ok (first, k) =>
    match alternatives m (8 * t.length + 16) first k with
    | .ok (r, .finish, k) => .ok ⟨r, k.warnings, k.searches⟩
    | .ok _ => .error "unbalanced )".toList
    | .error e => .error e

def wrapped (m : Manner) (words lines : Bool) (t : Chars) : Chars :=
  if lines then
    if m.extended then "^(".toList ++ t ++ ")$".toList else "^\\(".toList ++ t ++ "\\)$".toList
  else if words then
    if m.extended then "(^|[^[:alnum:]_])(".toList ++ t ++ ")([^[:alnum:]_]|$)".toList
    else "\\(^\\|[^[:alnum:]_]\\)\\(".toList ++ t ++ "\\)\\([^[:alnum:]_]\\|$\\)".toList
  else t

end PipelineShell.Userland.Regex.Selection
