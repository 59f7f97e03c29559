import PipelineShell.Script.Surrounding

/-!
# Reading commands

A script is read command by command, a command being all up to the end of a line that may end it.
What cannot be read is refused at the token where that is noticed.
-/

namespace PipelineShell.Script.Source

def specialNames : List Chars :=
  [".", ":", "break", "continue", "eval", "exec", "exit", "export", "local", "readonly", "return",
    "set", "shift", "times", "trap", "unset"].map String.toList

def sequenceOf (before : Option Node) (node : Node) : Node :=
  match before with
  | none => node
  | some b => .sequence b node

def inBackground : Node → Node
  | .pipeline stages _ => .pipeline stages true
  | .redirected line body redirections => .background line body redirections
  | node => .background 0 node []

def withRedirections (line : Nat) (node : Node) (redirections : List Redirection) : Node :=
  if redirections.isEmpty then node
  else
    match node with
    | .subshell line body _ => .subshell line body redirections
    | node => .redirected line node redirections

def demand (wanted got : Token) : Reading Unit := if got = wanted then pure () else unexpected wanted

mutual

def readParts : Nat → Surrounding → List Part → Reading (List Part)
  | 0, _, parts => return parts
  | fuel + 1, at_, parts => do
    let inDoc ← inDocument
    let quoted := at_.quotesText inDoc
    match ← nextPart (at_ = .single || at_ = .verbatim) with
    | none =>
      checkEnd at_
      return parts
    | some '\n' =>
      if at_ = .plain then
        back '\n'
        return parts
      countLine
      beginLine (at_ = .single || at_ = .verbatim)
      readParts fuel at_ (addChar quoted '\n' parts)
    | some c =>
      match at_.role c with
      | .text => readParts fuel at_ (addChar quoted c parts)
      | .close =>
        if at_ = .plain then back c
        return parts
      | .escape =>
        match ← nextPart true with
        | none => readParts fuel at_ (addChar true '\\' parts)
        | some d =>
          setQuoted
          readParts fuel at_ (addChar true d
            (if at_.isEscapable inDoc d then parts else addChar true '\\' parts))
      | .dollar => readParts fuel at_ (← readDollar fuel at_ parts)
      | .output =>
        if (← get).expecting.ending then readParts fuel at_ (addChar quoted c parts)
        else
          let text ← readBackquoted at_.isQuoting (← get).rest.length.succ []
          let body ← readApart fuel text
          readParts fuel at_ (.output at_.isQuoting body :: parts)
      | .openSingle =>
        let parts ← addMark (← readParts fuel .single (← addMark parts))
        setQuoted
        readParts fuel at_ parts
      | .openDouble =>
        let parts ← addMark (← readParts fuel (.double at_.isInBraces) (← addMark parts))
        setQuoted
        readParts fuel at_ parts
      | .toggle =>
        setQuoted
        let parts ← addMark parts
        readParts fuel (if at_ = .quotedBrace true then .quotedBrace false else .quotedBrace true)
          parts
      | .openParenthesis =>
        let depth := match at_ with | .arithmetic n => n | _ => 0
        readParts fuel (.arithmetic (depth + 1)) (addChar quoted c parts)
      | .closeParenthesis =>
        match at_ with
        | .arithmetic (depth + 1) => readParts fuel (.arithmetic depth) (addChar quoted c parts)
        | _ =>
          let d ← nextPart false
          if d = some ')' then return parts
          back d
          readParts fuel at_ (addChar quoted c parts)

def readDollar : Nat → Surrounding → List Part → Reading (List Part)
  | 0, _, parts => return parts
  | fuel + 1, at_, parts => do
    let quoted := at_.isQuoting
    let c ← nextPart false
    let literal : Reading (List Part) := do
      back c
      return addChar (at_.quotesText (← inDocument)) '$' parts
    if (← get).expecting.ending then literal
    else
      match c with
      | none => literal
      | some '(' =>
        let d ← nextPart false
        if d = some '(' then
          let expression ← readParts fuel (.arithmetic 0) []
          return .arithmetic quoted (finish expression) :: parts
        back d
        let body ← readWithin fuel
        return .output quoted body :: parts
      | some '\x7b' => readBraces fuel at_ parts
      | some c =>
        if isNameStart c then
          let (name, d) ← readWhile isNameChar (← get).rest.length.succ [c]
          back d
          return .parameter quoted name .value :: parts
        else if c.isDigit || isSpecial c then return .parameter quoted [c] .value :: parts
        else literal

def readBraces : Nat → Surrounding → List Part → Reading (List Part)
  | 0, _, parts => return parts
  | fuel + 1, at_, parts => do
    let size := (← get).rest.length.succ
    let readName (c : Char) : Reading (Chars × Option Char) :=
      readWhile (if c.isDigit then Char.isDigit else isNameChar) size [c]
    let c ← nextPart false
    -- the name, whether its length is wanted, the character behind it, and whether all is well
    let (name, length, d, good) : Chars × Bool × Option Char × Bool ←
      match c with
      | none => pure ([], false, c, false)
      | some '\x7d' => pure ([], false, c, false)
      | some c => do
        if isNameChar c then
          let (name, d) ← readName c
          pure (name, false, d, true)
        else
          let d ← nextPart false
          if c = '#' then
            match d with
            | some d =>
              if isNameChar d then
                let (name, e) ← readName d
                pure (name, true, e, true)
              else
                let e ← nextPart false
                if d = '\x7d' || e ≠ some '\x7d' then
                  back e
                  pure (['#'], false, some d, true)
                else pure ([d], true, e, isSpecial d)
            | none => pure (['#'], false, none, true)
          else pure ([c], false, d, isSpecial c)
    if !good || length then
      back d
      let _ ← readParts fuel at_.within []
      let use := if good && d = some '\x7d' then .length else .unknown
      return .parameter at_.isQuoting name use :: parts
    let (nonempty, e) ← if d = some ':' then do pure (true, ← nextPart false) else pure (false, d)
    let use : Use ←
      match e with
      | some '\x7d' =>
        if nonempty then
          let _ ← readParts fuel at_.within []
        pure .value
      | some e =>
        if !nonempty && (e = '%' || e = '#') then
          let f ← nextPart false
          let longest := f = some e
          if !longest then back f
          let pattern ← readParts fuel .brace []
          pure (.trim (e = '%') longest (finish pattern))
        else
          let word ← readParts fuel at_.within []
          pure (if "-+?=".toList.contains e then .otherwise nonempty e (finish word) else .unknown)
      | none => do
        let _ ← readParts fuel at_.within []
        pure .unknown
    return .parameter at_.isQuoting name use :: parts

def readWithin : Nat → Reading (Option Node)
  | 0 => return none
  | fuel + 1 => do
    let s ← get
    set { s with ending := none, ended := false, announced := [] }
    let body ← readList fuel true true none
    demand .closing (← readToken fuel)
    let behind ← get
    set { behind with rest := [] }
    readDocuments fuel
    modify fun t =>
      { t with
        rest := behind.rest, exhausted := behind.exhausted, ending := s.ending, ended := s.ended
        announced := s.announced, quoted := s.quoted, expecting := s.expecting }
    return body

def readApart : Nat → Chars → Reading (Option Node)
  | 0, _ => return none
  | fuel + 1, text => do
    let s ← get
    set { rest := text, replacements := s.replacements, documents := s.documents : Source }
    let body ← readList fuel true true none
    readDocuments fuel
    let documents := (← get).documents
    set { s with documents }
    return body

def readDocuments : Nat → Reading Unit
  | 0 => return
  | fuel + 1 => do
    let s ← get
    match s.announced with
    | [] => return
    | a :: rest =>
      set { s with announced := rest, ending := some (a.ending, a.stripTabs), ended := false }
      beginLine (!a.expanded)
      let body ← readParts fuel (if a.expanded then .document else .verbatim) []
      modify fun s =>
        { s with
          ending := none, ended := false
          documents := s.documents.setIfInBounds a.number ⟨finish body, a.expanded⟩ }
      readDocuments fuel

def readRaw : Nat → Reading Token
  | 0 => return .finish
  | fuel + 1 => do
    let s ← get
    if s.pushed then
      set { s with pushed := false }
      return s.last
    let c ← readBlanks s.rest.length.succ
    let t : Token ←
      match c with
      | none => pure .finish
      | some '\n' => do
        countLine
        pure .newline
      | some '&' => readDoubled '&' .and .background
      | some '|' => readDoubled '|' .or .pipe
      | some ';' => readDoubled ';' .endCase .semicolon
      | some '(' => pure .opening
      | some ')' => pure .closing
      | some c => do
        back c
        modify fun s => { s with quoted := false }
        let parts := finish (← readParts fuel .plain [])
        let s ← get
        let descriptor : Option (Option Nat) :=
          match parts with
          | [] => some none
          | [.literal false [d]] => if d.isDigit then some (some (d.toNat - 48)) else none
          | _ => none
        match s.rest, descriptor with
        | c :: _, some descriptor =>
          if (c = '<' || c = '>') && !s.quoted then do
            let _ ← nextJoined
            readDirection c descriptor
            pure .redirection
          else do
            set { s with word := parts }
            pure .word
        | _, _ => do
          set { s with word := parts }
          pure .word
    modify fun s => { s with last := t }
    return t

/-- Reads a token, with `also` special besides what is expected. -/
def readTokenAs : Nat → Expecting → Reading Token
  | 0, _ => return .finish
  | fuel + 1, also => do
    let t ← readRaw fuel
    let s ← get
    if also.anyLine && t = .newline then
      readDocuments fuel
      readTokenAs fuel also
    else
      let keywords := also.keywords || s.expecting.keywords
      let replaced := also.replaced || s.expecting.replaced
      set { s with expecting := {} }
      if t ≠ .word then return t
      match s.plainWord? with
      | none => return t
      | some text =>
        match if keywords then Keyword.texts.lookup text else none with
        | some k =>
          modify fun s => { s with last := .keyword k }
          return .keyword k
        | none =>
          match if replaced then s.replacement? text else none with
          | some value =>
            if !value.isEmpty then replace text value
            readTokenAs fuel { also with keywords, replaced }
          | none => return t

def readToken : Nat → Reading Token
  | 0 => return .finish
  | fuel + 1 => do readTokenAs fuel (← get).expecting

def readTarget : Nat → Reading Redirection
  | 0 => return .same 0 []
  | fuel + 1 => do
    let (descriptor, direction) := (← get).direction
    match direction with
    | .document stripTabs =>
      expect { ending := true }
      if (← readToken fuel) ≠ .word then unexpected none
      let s ← get
      let number := s.documents.size
      set ({ s with
        documents := s.documents.push { body := [], expanded := false }
        announced := s.announced ++ [⟨number, spelled s.word, stripTabs, !s.quoted⟩] } : Source)
      return .document descriptor number
    | .same =>
      if (← readToken fuel) ≠ .word then unexpected none
      return .same descriptor (← get).word
    | .file access =>
      if (← readToken fuel) ≠ .word then unexpected none
      return .file descriptor access (← get).word

def readRedirections : Nat → List Redirection → Reading (List Redirection)
  | 0, done => return done.reverse
  | fuel + 1, done => do
    if (← readToken fuel) = .redirection then
      readRedirections fuel ((← readTarget fuel) :: done)
    else
      pushBack
      return done.reverse

/-- Reads commands one after another, onto those read already: up to the end of the line or, with
`anyLine`, up to a token that cannot begin a command. Nothing may stand there only with `maybeNone`.
-/
def readList : Nat → (anyLine maybeNone : Bool) → Option Node → Reading (Option Node)
  | 0, _, _, before => return before
  | fuel + 1, anyLine, maybeNone, before => do
    expect { anyLine, keywords := true, replaced := true }
    let t ← readToken fuel
    if t = .newline then
      readDocuments fuel
      return before
    if t = .finish then
      readDocuments fuel
      modify fun s => { s with pushed := true, last := .finish }
      return before
    pushBack
    if maybeNone && t.endsList then return before
    let node ← readAndOr fuel
    let t ← readToken fuel
    let all := sequenceOf before (if t = .background then inBackground node else node)
    match t with
    | .finish =>
      readDocuments fuel
      modify fun s => { s with pushed := true, last := .finish }
      return some all
    | .newline =>
      pushBack
      readList fuel anyLine anyLine (some all)
    | .background | .semicolon => readList fuel anyLine anyLine (some all)
    | _ =>
      if !anyLine then unexpected none
      pushBack
      return some all

def readAndOr : Nat → Reading Node
  | 0 => fail []
  | fuel + 1 => do readAndOrFrom fuel (← readPipeline fuel)

def readAndOrFrom : Nat → Node → Reading Node
  | 0, node => return node
  | fuel + 1, node => do
    match ← readToken fuel with
    | .and =>
      expect { anyLine := true, keywords := true, replaced := true }
      readAndOrFrom fuel (.both node (← readPipeline fuel))
    | .or =>
      expect { anyLine := true, keywords := true, replaced := true }
      readAndOrFrom fuel (.either node (← readPipeline fuel))
    | _ =>
      pushBack
      return node

def readPipeline : Nat → Reading Node
  | 0 => fail []
  | fuel + 1 => do
    let negated := (← readToken fuel) = .keyword .not
    if negated then expect { keywords := true, replaced := true } else pushBack
    let first ← readCommand fuel
    let more ← readStages fuel []
    let node := if more.isEmpty then first else .pipeline (first :: more) false
    return if negated then .negation node else node

def readStages : Nat → List Node → Reading (List Node)
  | 0, done => return done.reverse
  | fuel + 1, done => do
    if (← readToken fuel) = .pipe then
      expect { anyLine := true, keywords := true, replaced := true }
      readStages fuel ((← readCommand fuel) :: done)
    else
      pushBack
      return done.reverse

def readBody : Nat → Reading Node
  | 0 => fail []
  | fuel + 1 => do
    match ← readList fuel true false none with
    | some node => return node
    | none => return .simple 0 [] [] []

def readCommand : Nat → Reading Node
  | 0 => fail []
  | fuel + 1 => do
    let line := (← get).line
    match ← readToken fuel with
    | .word | .redirection =>
      pushBack
      readSimple fuel (← get).line true [] [] []
    | .keyword .ifOf => readEnd fuel line (.keyword .fi) (← readBranch fuel)
    | .keyword .whileOf => readEnd fuel line (.keyword .done) (← readLoop fuel false)
    | .keyword .untilOf => readEnd fuel line (.keyword .done) (← readLoop fuel true)
    | .keyword .forEach => readEnd fuel line (.keyword .done) (← readEach fuel line)
    | .keyword .caseOf => readBehind fuel line (← readSelect fuel line)
    | .opening => readEnd fuel line .closing (.subshell line (← readBody fuel) [])
    | .keyword .opening => readEnd fuel line (.keyword .closing) (← readBody fuel)
    | _ => unexpected none

def readEnd : Nat → Nat → Token → Node → Reading Node
  | 0, _, _, node => return node
  | fuel + 1, line, wanted, node => do
    demand wanted (← readToken fuel)
    readBehind fuel line node

def readBehind : Nat → Nat → Node → Reading Node
  | 0, _, node => return node
  | fuel + 1, line, node => do
    expect { keywords := true, replaced := true }
    return withRedirections line node (← readRedirections fuel [])

def readBranch : Nat → Reading Node
  | 0 => fail []
  | fuel + 1 => do
    let condition ← readBody fuel
    demand (.keyword .thenOf) (← readToken fuel)
    let body ← readBody fuel
    match ← readToken fuel with
    | .keyword .elseIf => return .branch condition body (some (← readBranch fuel))
    | .keyword .elseOf => return .branch condition body (some (← readBody fuel))
    | _ =>
      pushBack
      return .branch condition body none

def readLoop : Nat → Bool → Reading Node
  | 0, _ => fail []
  | fuel + 1, untilTrue => do
    let condition ← readBody fuel
    demand (.keyword .doing) (← readToken fuel)
    return .loop untilTrue condition (← readBody fuel)

def readEach : Nat → Nat → Reading Node
  | 0, _ => fail []
  | fuel + 1, line => do
    let t ← readToken fuel
    let s ← get
    match if t = .word then s.plainWord? else none with
    | none => fail "Bad for loop variable".toList
    | some name =>
      if !isName name then fail "Bad for loop variable".toList
      expect { anyLine := true, keywords := true, replaced := true }
      let words : List (List Part) ←
        match ← readToken fuel with
        | .keyword .inOf => do
          let words ← readWords fuel []
          let last := (← get).last
          if last ≠ .newline && last ≠ .semicolon then unexpected none
          pure words
        | t => do
          if t ≠ .semicolon then pushBack
          pure [[.mark, .parameter true ['@'] .value, .mark]]
      expect { anyLine := true, keywords := true, replaced := true }
      demand (.keyword .doing) (← readToken fuel)
      return .each line name words (← readBody fuel)

def readWords : Nat → List (List Part) → Reading (List (List Part))
  | 0, done => return done.reverse
  | fuel + 1, done => do
    if (← readToken fuel) = .word then readWords fuel ((← get).word :: done)
    else return done.reverse

def readSelect : Nat → Nat → Reading Node
  | 0, _ => fail []
  | fuel + 1, line => do
    demand .word (← readToken fuel)
    let subject := (← get).word
    expect { anyLine := true, keywords := true, replaced := true }
    demand (.keyword .inOf) (← readToken fuel)
    return .select line subject (← readArms fuel [])

def readArms : Nat → List (List (List Part) × Option Node) →
    Reading (List (List (List Part) × Option Node))
  | 0, done => return done.reverse
  | fuel + 1, done => do
    expect { anyLine := true, keywords := true }
    let t ← readToken fuel
    if t = .keyword .esac then return done.reverse
    if t = .opening then
      let _ ← readToken fuel
    let patterns ← readPatterns fuel []
    let body ← readList fuel true true none
    let done := (patterns, body) :: done
    expect { anyLine := true, keywords := true }
    let t ← readToken fuel
    if t = .keyword .esac then return done.reverse
    demand .endCase t
    readArms fuel done

def readPatterns : Nat → List (List Part) → Reading (List (List Part))
  | 0, done => return done.reverse
  | fuel + 1, done => do
    let done := (← get).word :: done
    let t ← readToken fuel
    if t = .pipe then
      let _ ← readToken fuel
      readPatterns fuel done
    else
      demand .closing t
      return done.reverse

/-- Reads a command made of words, onto what has been read of it, in reverse. `first` tells whether
no word but assignments has been read. -/
def readSimple : Nat → (line : Nat) → (first : Bool) → List (Chars × List Part) →
    List (List Part) → List Redirection → Reading Node
  | 0, line, _, assignments, words, redirections =>
    return .simple line assignments.reverse words.reverse redirections.reverse
  | fuel + 1, line, first, assignments, words, redirections => do
    expect { replaced := first }
    match ← readToken fuel with
    | .word =>
      let word := (← get).word
      match if first then assignment? word else none with
      | some a => readSimple fuel line first (a :: assignments) words redirections
      | none => readSimple fuel line false assignments (word :: words) redirections
    | .redirection =>
      readSimple fuel line first assignments words ((← readTarget fuel) :: redirections)
    | t =>
      match t, assignments, words, redirections with
      | .opening, [], [word], [] =>
        demand .closing (← readToken fuel)
        match plain? word with
        | none => fail "Bad function name".toList
        | some name =>
          if !isName name || specialNames.contains name then fail "Bad function name".toList
          expect { anyLine := true, keywords := true, replaced := true }
          let line := (← get).line
          return .define line name (← readCommand fuel)
      | _, _, _, _ =>
        pushBack
        return .simple line assignments.reverse words.reverse redirections.reverse

end

def readingFuel : Nat := 1000000000

def readQuotable : Reading (List Part) := do
  modify fun s => { s with ending := some (['\x00'], false) }
  return finish (← readParts readingFuel .document [])

def readCommandLine : Reading (Option (Option Node)) := do
  modify fun s => { s with pushed := false, expecting := {}, announced := [] }
  let node ← readList readingFuel false false none
  let s ← get
  if node.isNone && s.pushed && s.last = .finish then return none
  return some node

end PipelineShell.Script.Source
