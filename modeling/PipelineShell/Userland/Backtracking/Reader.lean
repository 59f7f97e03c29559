import PipelineShell.Userland.Backtracking.Escape

/-!
# Reading expressions that are tried in order

The parser of these expressions. Options that are set in a group hold to its end.
-/

namespace PipelineShell.Userland.Backtracking

/-- Where the reader is. -/
structure Cursor where
  rest : Chars
  flags : Flags
  quoting : Bool := false
  groups : Nat := 0
  names : List (Chars × Nat) := []

abbrev Reading (α : Type) := Except Chars (α × Cursor)

/-- A part of a row of expressions. -/
inductive Item
  | finish
  | piece (r : Expression) (repeatable : Bool)
  | nothing
  | repetition (least : Nat) (most : Option Nat) (greed : Greed)

namespace Cursor

def goTo (k : Cursor) (rest : Chars) : Cursor := { k with rest }

def unclosed {α : Type} : Except Chars α := refuse "missing closing parenthesis"

def greatestGroup : Nat := 65535

def number (base : Option Nat) (t : Chars) : Except Chars (Option (Nat × Chars)) :=
  let (sign, t) : Option Char × Chars :=
    match base, t with
    | some _, '+' :: rest => (some '+', rest)
    | some _, '-' :: rest => (some '-', rest)
    | _, t => (none, t)
  let digits := t.takeWhile Char.isDigit
  let n := value 10 digits
  if digits.isEmpty then .ok none
  else if greatestGroup < n then refuse "subpattern number is too big"
  else if sign.isSome && n = 0 then refuse "a relative value of zero is not allowed"
  else
    let base := base.getD 0
    if sign = some '-' && base < n then refuse "reference to non-existent subpattern"
    else
      let n := if sign = some '+' then n + base else if sign = some '-' then base - n + 1 else n
      .ok (some (n, t.drop digits.length))

def name (stop : Char) (t : Chars) : Read Chars :=
  let name := t.takeWhile fun c => c.isAlphanum || c = '_'
  match t with
  | [] => refuse "subpattern name expected"
  | c :: _ =>
    if c.isDigit then refuse "subpattern name must start with a non-digit"
    else if name.isEmpty then refuse "subpattern name expected"
    else if name.length > 32 then
      refuse "subpattern name is too long (maximum 32 code units)"
    else
      match t.drop name.length with
      | d :: rest =>
        if d = stop then .ok (name, rest)
        else refuse "syntax error in subpattern name (missing terminator?)"
      | [] => refuse "syntax error in subpattern name (missing terminator?)"

def stopOf (c : Char) : Option Char :=
  match c with
  | '<' => some '>'
  | '\'' => some '\''
  | '\x7b' => some '\x7d'
  | _ => none

def once (k : Cursor) (r : Expression) (rest : Chars) : Reading Item :=
  .ok (.piece r false, k.goTo rest)

def many (k : Cursor) (r : Expression) (rest : Chars) : Reading Item :=
  .ok (.piece r true, k.goTo rest)

def literal (k : Cursor) (c : Char) : Expression :=
  .one (Kind.literal k.flags.wide k.flags.fold c)
    (some (if k.flags.fold then Regex.lower k.flags.wide c else c))

def backName (k : Cursor) : Chars → Reading Item
  | c :: rest =>
    match stopOf c with
    | some stop =>
      (name stop rest).bind fun (t, rest) => k.many (.back (.name t) k.flags.fold) rest
    | none => refuse "\\k is not followed by a braced, angle-bracketed, or quoted name"
  | [] => refuse "\\k is not followed by a braced, angle-bracketed, or quoted name"

def badReference : String :=
  "\\g is not followed by a braced, angle-bracketed, or quoted name/number or by a plain number"

def reference (k : Cursor) (t : Chars) : Reading Item :=
  let back (n : Nat) (rest : Chars) : Reading Item :=
    if n = 0 then refuse "reference to non-existent subpattern"
    else k.many (.back (.number n) k.flags.fold) rest
  match t with
  | [] => refuse badReference
  | '\x7b' :: rest =>
    match number (some k.groups) rest with
    | .error e => .error e
    | .ok none => k.backName t
    | .ok (some (n, '\x7d' :: rest)) => back n rest
    | .ok (some _) => refuse badReference
  | c :: rest =>
    if c = '<' || c = '\'' then
      let stop := (stopOf c).getD c
      match number (some k.groups) rest with
      | .error e => .error e
      | .ok (some (n, d :: rest)) =>
        if d = stop then k.many (.call (.number n)) rest else refuse badReference
      | .ok (some (_, [])) => refuse badReference
      | .ok none => (name stop rest).bind fun (t, rest) => k.many (.call (.name t)) rest
    else
      match number (some k.groups) t with
      | .error e => .error e
      | .ok none => refuse badReference
      | .ok (some (n, rest)) => back n rest

def lineBreak : Expression :=
  .atomic (.either (.both (.one (· = '\r')) (.one (· = '\n'))) (.one Kind.isVertical))

def cluster : Expression :=
  .atomic (.both (.one Regex.isDecoded) (.repeated (.one Kind.isMarkOnLetter) 0 none .greedy))

def greatestCount : Nat := 65535

def interval? (t : Chars) : Except Chars (Option (Nat × Option Nat × Chars)) :=
  let first := t.takeWhile Char.isDigit
  let second (most : Option Chars) (rest : Chars) : Except Chars (Option (Nat × Option Nat × Chars)) :=
    let least := value 10 first
    let most := most.map (value 10)
    if greatestCount < least || most.any (greatestCount < ·) then
      refuse "number too big in \x7b\x7d quantifier"
    else if most.any (· < least) then refuse "numbers out of order in \x7b\x7d quantifier"
    else .ok (some (least, most, rest))
  if first.isEmpty then .ok none
  else
    match t.drop first.length with
    | '\x7d' :: rest => second (some first) rest
    | ',' :: '\x7d' :: rest => second none rest
    | ',' :: rest =>
      let digits := rest.takeWhile Char.isDigit
      match rest.drop digits.length with
      | '\x7d' :: behind => if digits.isEmpty then .ok none else second (some digits) behind
      | _ => .ok none
    | _ => .ok none

def escape (k : Cursor) : Chars → Reading Item
  | [] => refuse "\\ at end of pattern"
  | c :: rest =>
    let spot (s : Spot) : Reading Item := k.once (.spot s) rest
    match c with
    | 'Q' => .ok (.nothing, { k.goTo rest with quoting := true })
    | 'E' => .ok (.nothing, k.goTo rest)
    | 'b' => spot (.wordEdge true)
    | 'B' => spot (.wordEdge false)
    | 'A' => spot .start
    | 'z' => spot (.finish true)
    | 'Z' => spot (.finish false)
    | 'G' => spot .origin
    | 'K' => k.once .keep rest
    | 'R' => k.many lineBreak rest
    | 'X' => k.many cluster rest
    | 'C' => k.many (.one Regex.isDecoded) rest
    | 'N' =>
      match rest with
      | '\x7b' :: 'U' :: '+' :: more =>
        if !k.flags.wide then
          refuse "\\N\x7bU+dddd\x7d is supported only in Unicode (UTF) mode"
        else
          (braced true 16 "non-hex character in \\x\x7b\x7d (closing brace missing?)" more).bind
            fun (c, rest) => k.many (k.literal c) rest
      | '\x7b' :: more =>
        match interval? more with
        | .error e => .error e
        | .ok (some _) => k.many (.dot false) rest
        | .ok none =>
          refuse "PCRE2 does not support \\F, \\L, \\l, \\N\x7bname\x7d, \\U, or \\u"
      | _ => k.many (.dot false) rest
    | 'p' | 'P' => (property (c = 'P') rest).bind fun (p, rest) => k.many (.one p) rest
    | 'g' => k.reference rest
    | 'k' => k.backName rest
    | c =>
      let plain (x : Char) (rest : Chars) : Reading Item := k.many (k.literal x) rest
      match Kind.ofLetter? c with
      | some p => k.many (.one p) rest
      | none =>
        if '1' ≤ c && c ≤ '9' then
          let digits := (c :: rest).takeWhile Char.isDigit
          let n := value 10 digits
          if n < 10 || '8' ≤ c || n ≤ k.groups then
            if greatestGroup < n then refuse "subpattern number is too big"
            else k.many (.back (.number n) k.flags.fold) ((c :: rest).drop digits.length)
          else (octal k.flags.wide (c :: rest)).bind fun (c, rest) => plain c rest
        else
          match symbolOf? k.flags.wide c rest with
          | .error e => .error e
          | .ok (some (x, rest)) => plain x rest
          | .ok none =>
            if "FLlUu".toList.contains c then
              refuse "PCRE2 does not support \\F, \\L, \\l, \\N\x7bname\x7d, \\U, or \\u"
            else refuse "unrecognized character follows \\"

def behindRemarks (k : Cursor) : (fuel : Nat) → Chars → Chars
  | 0, t => t
  | fuel + 1, t =>
    match t with
    | '(' :: '?' :: '#' :: rest => behindRemarks k fuel ((rest.dropWhile (· ≠ ')')).drop 1)
    | '\\' :: 'E' :: rest | '\\' :: 'Q' :: '\\' :: 'E' :: rest => behindRemarks k fuel rest
    | '#' :: rest =>
      if k.flags.spaced then behindRemarks k fuel ((rest.dropWhile (· ≠ '\n')).drop 1) else t
    | c :: rest =>
      if k.flags.spaced && Text.Class.isSpace c then behindRemarks k fuel rest else t
    | [] => t

def greed (k : Cursor) (t : Chars) : Greed × Chars :=
  match k.behindRemarks t.length t with
  | '+' :: rest => (.possessive, rest)
  | '?' :: rest => (if k.flags.swapped then .greedy else .lazy, rest)
  | _ => (if k.flags.swapped then .lazy else .greedy, t)

def repetition (k : Cursor) (least : Nat) (most : Option Nat) (rest : Chars) : Reading Item :=
  let (greed, rest) := k.greed rest
  .ok (.repetition least most greed, k.goTo rest)

/-- Sets flags up to the end of the setting; `on` tells whether they are set or unset, and `hyphens`
whether a hyphen may follow. -/
def settings (hyphens : Bool) : (on : Bool) → Flags → Chars → Except Chars (Flags × Bool × Chars)
  | _, _, [] => unclosed
  | on, f, c :: rest =>
    match c with
    | ')' => .ok (f, false, rest)
    | ':' => .ok (f, true, rest)
    | '-' =>
      if !hyphens || !on then refuse "invalid hyphen in option setting"
      else settings hyphens false f rest
    | 'i' => settings hyphens on { f with fold := on } rest
    | 'm' => settings hyphens on { f with multi := on } rest
    | 's' => settings hyphens on { f with dotAll := on } rest
    | 'n' => settings hyphens on { f with plain := on } rest
    | 'J' => settings hyphens on { f with shares := on } rest
    | 'U' => settings hyphens on { f with swapped := on } rest
    | 'x' =>
      match rest with
      | 'x' :: rest => settings hyphens on { f with spaced := on, verySpaced := on } rest
      | rest => settings hyphens on { f with spaced := on, verySpaced := false } rest
    | _ => refuse "unrecognized character after (? or (?-"

def addName (k : Cursor) (t : Chars) (n : Nat) : Except Chars Cursor :=
  match k.names.lookup t with
  | some m =>
    if m = n then .ok k
    else if k.flags.shares then .ok { k with names := k.names ++ [(t, n)] }
    else refuse "two named subpatterns have the same name (PCRE2_DUPNAMES not set)"
  | none => .ok { k with names := k.names ++ [(t, n)] }

def verb (k : Cursor) (t : Chars) : Reading Item :=
  let letters := t.takeWhile fun c => c.isAlphanum || c = '_'
  let rest := t.drop letters.length
  let named : Bool := rest.head? = some ':'
  let name := (rest.drop 1).takeWhile (· ≠ ')')
  let rest := if named then rest.dropWhile (· ≠ ')') else rest
  let wrong : Reading Item := refuse "(*VERB) not recognized or malformed"
  match rest with
  | ')' :: rest =>
    match String.ofList letters with
    | "ACCEPT" => k.once (.verb .accept) rest
    | "F" | "FAIL" => k.once (.verb .fail) rest
    | "COMMIT" => k.once (.verb .commit) rest
    | "PRUNE" | "THEN" => k.once (.verb .prune) rest
    | "SKIP" => k.once (.verb .skip) rest
    | "MARK" | "" =>
      if named && !name.isEmpty then k.once .empty rest
      else refuse "(*MARK) must have an argument"
    | _ => wrong
  | _ => wrong

def assertions : List (String × Chars) :=
  [("pla", "?=".toList), ("positive_lookahead", "?=".toList), ("nla", "?!".toList),
    ("negative_lookahead", "?!".toList), ("plb", "?<=".toList),
    ("positive_lookbehind", "?<=".toList), ("nlb", "?<!".toList),
    ("negative_lookbehind", "?<!".toList), ("atomic", "?>".toList), ("napla", "?=".toList),
    ("non_atomic_positive_lookahead", "?=".toList), ("naplb", "?<=".toList),
    ("non_atomic_positive_lookbehind", "?<=".toList), ("sr", "?:".toList),
    ("script_run", "?:".toList), ("asr", "?>".toList), ("atomic_script_run", "?>".toList)]

def call (k : Cursor) (t : Chars) : Reading Item :=
  match number (some k.groups) t with
  | .error e => .error e
  | .ok (some (n, ')' :: rest)) => k.many (.call (.number n)) rest
  | .ok (some _) => unclosed
  | .ok none => refuse "digit expected after (?+ or (?-"

def nameCondition (stop : Char) (t : Chars) : Read Condition :=
  (name stop t).map fun (t, rest) => (.matched (.name t), rest)

def condition (k : Cursor) (t : Chars) : Read Condition :=
  let wrong : Read Condition := refuse "missing closing parenthesis for condition"
  let close (c : Condition) (rest : Chars) : Read Condition :=
    match rest with
    | ')' :: rest => .ok (c, rest)
    | _ => wrong
  match t with
  | '<' :: rest => (nameCondition '>' rest).bind fun (c, rest) => close c rest
  | '\'' :: rest => (nameCondition '\'' rest).bind fun (c, rest) => close c rest
  | 'R' :: '&' :: rest =>
    (name ')' rest).map fun (t, rest) => (.used (some (.name t)), rest)
  | 'R' :: ')' :: rest => .ok (.used none, rest)
  | t =>
    match number (some k.groups) t with
    | .error e => .error e
    | .ok (some (n, rest)) =>
      if n = 0 then refuse "reference to non-existent subpattern"
      else close (.matched (.number n)) rest
    | .ok none =>
      match t with
      | 'R' :: d :: more =>
        let digits := (d :: more).takeWhile Char.isDigit
        match (d :: more).drop digits.length with
        | ')' :: rest =>
          if digits.isEmpty then nameCondition ')' t
          else .ok (.used (some (.number (value 10 digits))), rest)
        | _ => nameCondition ')' t
      | _ =>
        (nameCondition ')' t).map fun (c, rest) =>
          (if c = .matched (.name "DEFINE".toList) then .never else c, rest)

def looksAround : Chars → Bool
  | '?' :: '=' :: _ | '?' :: '!' :: _ | '?' :: '<' :: '=' :: _ | '?' :: '<' :: '!' :: _ => true
  | _ => false

def anyOf : List Expression → Expression
  | [] => .empty
  | [r] => r
  | r :: rest => .either r (anyOf rest)

end Cursor

open Cursor

mutual

/-- Reads alternatives up to the end or the closing of a group. If `resets`, the groups of each have
the same numbers. -/
def alternatives : (fuel : Nat) → (nested resets : Bool) → Cursor → Reading (List Expression)
  | 0, _, _, _ => refuse "parentheses are too deeply nested"
  | fuel + 1, nested, resets, k =>
    match row fuel nested .empty none k with
    | .error e => .error e
    | .ok (r, k') =>
      match k'.rest with
      | '|' :: rest =>
        let k'' := { k'.goTo rest with groups := if resets then k.groups else k'.groups }
        (alternatives fuel nested resets k'').map fun (more, k) =>
          (r :: more, { k with groups := max k.groups k'.groups })
      | _ => .ok ([r], k')

/-- Reads expressions one after the other; `last` is one that can still be repeated. -/
def row : (fuel : Nat) → (nested : Bool) → (done : Expression) → (last : Option Expression) →
    Cursor → Reading Expression
  | 0, _, _, _, _ => refuse "parentheses are too deeply nested"
  | fuel + 1, nested, done, last, k =>
    let sofar := done.append (last.getD .empty)
    match item fuel nested k with
    | .error e => .error e
    | .ok (.finish, k) => .ok (sofar, k)
    | .ok (.nothing, k) => row fuel nested done last k
    | .ok (.piece r true, k) => row fuel nested sofar (some r) k
    | .ok (.piece r false, k) => row fuel nested (sofar.append r) none k
    | .ok (.repetition least most greed, k) =>
      match last with
      | some r => row fuel nested (done.append (.repeated r least most greed)) none k
      | none => refuse "quantifier does not follow a repeatable item"

def item : (fuel : Nat) → (nested : Bool) → Cursor → Reading Item
  | 0, _, _ => refuse "parentheses are too deeply nested"
  | fuel + 1, nested, k =>
    match k.rest with
    | [] => .ok (.finish, k)
    | c :: rest =>
      let plain : Reading Item := k.many (k.literal c) rest
      if k.quoting then
        if c = '\\' && rest.head? = some 'E' then
          .ok (.nothing, { k.goTo (rest.drop 1) with quoting := false })
        else plain
      else if k.flags.spaced && Text.Class.isSpace c then .ok (.nothing, k.goTo rest)
      else if k.flags.spaced && c = '#' then
        .ok (.nothing, k.goTo ((rest.dropWhile (· ≠ '\n')).drop 1))
      else
        match c with
        | '\\' => k.escape rest
        | '^' => k.once (.spot (.head k.flags.multi)) rest
        | '$' => k.once (.spot (.tail k.flags.multi)) rest
        | '.' => k.many (.dot k.flags.dotAll) rest
        | '[' => (set k.flags rest).bind fun (p, rest) => k.many (.one p) rest
        | '*' => k.repetition 0 none rest
        | '+' => k.repetition 1 none rest
        | '?' => k.repetition 0 (some 1) rest
        | '\x7b' =>
          match interval? rest with
          | .error e => .error e
          | .ok (some (least, most, rest)) => k.repetition least most rest
          | .ok none => plain
        | '|' => .ok (.finish, k)
        | ')' =>
          if nested then .ok (.finish, k) else refuse "unmatched closing parenthesis"
        | '(' => opening fuel k rest
        | _ => plain

def inner : (fuel : Nat) → (resets : Bool) → Flags → Cursor → Reading (List Expression)
  | 0, _, _, _ => refuse "parentheses are too deeply nested"
  | fuel + 1, resets, f, k =>
    match alternatives fuel true resets { k with flags := f } with
    | .error e => .error e
    | .ok (all, k') =>
      match k'.rest with
      | ')' :: rest => .ok (all, { k'.goTo rest with flags := k.flags })
      | _ => unclosed

def numbered : (fuel : Nat) → (name : Option Chars) → Cursor → Reading Item
  | 0, _, _ => refuse "parentheses are too deeply nested"
  | fuel + 1, name, k =>
    let n := k.groups + 1
    let k := { k with groups := n }
    match name.elim (.ok k) (k.addName · n) with
    | .error e => .error e
    | .ok k =>
      (inner fuel false k.flags k).map fun (all, k) => (.piece (.group n (anyOf all)) true, k)

def opening : (fuel : Nat) → Cursor → Chars → Reading Item
  | 0, _, _ => refuse "parentheses are too deeply nested"
  | fuel + 1, k, rest =>
    let wrap (f : Expression → Expression) (resets : Bool) (rest : Chars) : Reading Item :=
      (inner fuel resets k.flags (k.goTo rest)).map fun (all, k) => (.piece (f (anyOf all)) true, k)
    let named (stop : Char) (rest : Chars) : Reading Item :=
      match name stop rest with
      | .error e => .error e
      | .ok (t, rest) => numbered fuel (some t) (k.goTo rest)
    match rest with
    | '*' :: c :: _ =>
      if c = ')' then numbered fuel none (k.goTo rest)
      else if c.isLower then
        let word := (rest.drop 1).takeWhile fun c => c.isAlpha || c = '_'
        match assertions.lookup (String.ofList word), rest.drop (word.length + 1) with
        | some sign, ':' :: more => opening fuel k (sign ++ more)
        | _, _ => refuse "(*alpha_assertion) not recognized"
      else k.verb (rest.drop 1)
    | '?' :: rest =>
      match rest with
      | [] => unclosed
      | ':' :: rest => wrap .bracket false rest
      | '|' :: rest => wrap .bracket true rest
      | '>' :: rest => wrap .atomic false rest
      | '=' :: rest => wrap (.look true true) false rest
      | '!' :: rest => wrap (.look true false) false rest
      | '<' :: '=' :: rest => wrap (.look false true) false rest
      | '<' :: '!' :: rest => wrap (.look false false) false rest
      | '<' :: rest => named '>' rest
      | '\'' :: rest => named '\'' rest
      | ['P'] => unclosed
      | 'P' :: '<' :: rest => named '>' rest
      | 'P' :: '=' :: rest =>
        (name ')' rest).bind fun (t, rest) => k.many (.back (.name t) k.flags.fold) rest
      | 'P' :: '>' :: rest | '&' :: rest =>
        (name ')' rest).bind fun (t, rest) => k.many (.call (.name t)) rest
      | 'P' :: _ => refuse "unrecognized character after (?P"
      | 'R' :: ')' :: rest => k.many (.call (.number 0)) rest
      | 'R' :: _ =>
        refuse "(?R (recursive pattern call) must be followed by a closing parenthesis"
      | '#' :: rest =>
        match rest.dropWhile (· ≠ ')') with
        | _ :: rest => .ok (.nothing, k.goTo rest)
        | [] => refuse "missing ) after (?# comment"
      | 'C' :: rest =>
        match rest.dropWhile Char.isDigit with
        | ')' :: rest => k.once .empty rest
        | [] => unclosed
        | _ => refuse "closing parenthesis for (?C expected"
      | '(' :: rest =>
        if looksAround rest then
          match opening fuel k rest with
          | .error e => .error e
          | .ok (.piece l _, k) => chosen fuel false (.choiceBy l) k
          | .ok _ => refuse "assertion expected after (?( or (?(?C)"
        else if rest.head? = some '?' || rest.head? = some '*' then
          refuse "assertion expected after (?( or (?(?C)"
        else
          match condition k rest with
          | .error e => .error e
          | .ok (c, rest) => chosen fuel (c = .never) (.choice c) (k.goTo rest)
      | c :: more =>
        if c.isDigit || c = '+' || (c = '-' && (more.head?.any Char.isDigit)) then k.call rest
        else
          let bare : Flags :=
            { k.flags with
              fold := false, multi := false, dotAll := false, plain := false, spaced := false,
              verySpaced := false }
          let read :=
            if c = '^' then settings false true bare more else settings true true k.flags rest
          match read with
          | .error e => .error e
          | .ok (f, false, rest) => .ok (.piece .empty false, { k.goTo rest with flags := f })
          | .ok (f, true, rest) =>
            (inner fuel false f (k.goTo rest)).map fun (all, k) =>
              (.piece (.bracket (anyOf all)) true, k)
    | rest =>
      if k.flags.plain then wrap .bracket false rest else numbered fuel none (k.goTo rest)

def chosen : (fuel : Nat) → (never : Bool) → (Expression → Expression → Expression) → Cursor →
    Reading Item
  | 0, _, _, _ => refuse "parentheses are too deeply nested"
  | fuel + 1, never, make, k =>
    match inner fuel false k.flags k with
    | .error e => .error e
    | .ok (all, k) =>
      if never && all.length > 1 then refuse "DEFINE subpattern contains more than one branch"
      else
        match all with
        | [yes] => .ok (.piece (make yes .empty) true, k)
        | [yes, no] => .ok (.piece (make yes no) true, k)
        | _ => refuse "conditional subpattern contains more than two branches"

end

def preambles : List Chars :=
  ["(*UTF)", "(*UCP)", "(*LF)", "(*NO_JIT)", "(*NO_START_OPT)", "(*NO_AUTO_POSSESS)",
    "(*NO_DOTSTAR_ANCHOR)", "(*BSR_UNICODE)", "(*BSR_ANYCRLF)", "(*CR)", "(*CRLF)", "(*ANYCRLF)",
    "(*ANY)", "(*NUL)"].map String.toList

def dropPreambles : (fuel : Nat) → Chars → Chars
  | 0, t => t
  | fuel + 1, t =>
    match preambles.find? (·.isPrefixOf t) with
    | some preamble => dropPreambles fuel (t.drop preamble.length)
    | none => t

/-- What an expression comes to: itself, how many groups it has, and their names. -/
structure Outcome where
  expression : Expression
  groups : Nat
  names : List (Chars × Nat)

def Outcome.groupsOf (o : Outcome) : Reference → List Nat
  | .number n => if n ≤ o.groups then [n] else []
  | .name t => (o.names.filter (·.1 = t)).map (·.2)

def read (f : Flags) (t : Chars) : Except Chars Outcome :=
  let t := dropPreambles (t.length + 1) t
  match alternatives (8 * t.length + 16) false false { rest := t, flags := f } with
  | .error e => .error e
  | .ok (all, k) =>
    let o : Outcome := { expression := anyOf all, groups := k.groups, names := k.names }
    if !o.expression.looksFixed then refuse "lookbehind assertion is not fixed length"
    else if o.expression.references.any fun r => (o.groupsOf r).isEmpty then
      refuse "reference to non-existent subpattern"
    else .ok o

end PipelineShell.Userland.Backtracking
