import PipelineShell.Line.Word

/-!
# Pipelines

`parse`: commands joined by `|`, and at most one redirection of each output, which belongs to the
whole pipeline. The last redirection of an output counts; a quoted word is no operator.
-/

namespace PipelineShell

/-- One stage: a name and its arguments. -/
structure Command where
  name : Text
  args : List Text
  deriving DecidableEq, Repr

def Command.argv (c : Command) : List Text := c.name :: c.args

/-- The target of a redirected output, and whether its old content is kept. -/
structure Redirect where
  path : Text
  append : Bool
  deriving DecidableEq, Repr

/-- The stages, and the redirections of the whole pipeline. -/
structure Pipeline where
  stages : List Command
  stdout : Option Redirect := none
  stderr : Option Redirect := none
  deriving DecidableEq, Repr

/-- The two outputs of a pipeline. -/
inductive Output
  | stdout
  | stderr
  deriving DecidableEq, Repr

/-- The redirection operators; some have two spellings. -/
inductive RedirectOperator
  | out
  | outNumbered
  | outAppend
  | outNumberedAppend
  | err
  | errAppend
  deriving DecidableEq, Repr

namespace RedirectOperator

def spelling : RedirectOperator → Text
  | .out => [.char '>']
  | .outNumbered => [.char '1', .char '>']
  | .outAppend => [.char '>', .char '>']
  | .outNumberedAppend => [.char '1', .char '>', .char '>']
  | .err => [.char '2', .char '>']
  | .errAppend => [.char '2', .char '>', .char '>']

def output : RedirectOperator → Output
  | .out | .outNumbered | .outAppend | .outNumberedAppend => .stdout
  | .err | .errAppend => .stderr

def appends : RedirectOperator → Bool
  | .outAppend | .outNumberedAppend | .errAppend => true
  | .out | .outNumbered | .err => false

def all : List RedirectOperator :=
  [.out, .outNumbered, .outAppend, .outNumberedAppend, .err, .errAppend]

def ofText? (t : Text) : Option RedirectOperator := all.find? (·.spelling = t)

theorem ofText?_spelling (op : RedirectOperator) : ofText? op.spelling = some op := by
  cases op <;> decide

theorem spelling_of_ofText? {t : Text} {op : RedirectOperator} (h : ofText? t = some op) :
    op.spelling = t := by
  simpa using List.find?_some h

end RedirectOperator

/-- What a word means to the grouping of a line. -/
inductive Operator
  | pipe
  | redirect (op : RedirectOperator)
  deriving DecidableEq, Repr

def Word.operator? (w : Word) : Option Operator :=
  if w.quoted then none
  else if w.text = [.char '|'] then some .pipe
  else (RedirectOperator.ofText? w.text).map .redirect

/-- Why a line is no pipeline. -/
inductive ParseError
  | unclosedQuote (mark : QuoteMark)
  | emptyCommand
  | missingTarget (op : RedirectOperator)
  deriving DecidableEq, Repr

def ParseError.message : ParseError → Text
  | .unclosedQuote mark => "unclosed ".runes ++ mark.char :: " quote".runes
  | .emptyCommand => "empty command in pipeline".runes
  | .missingTarget op => "missing target after '".runes ++ op.spelling ++ [.char '\'']

namespace Pipeline

def command : List Text → Except ParseError Command
  | [] => .error .emptyCommand
  | name :: args => .ok ⟨name, args⟩

/-- The words grouped so far: finished stages and the words of the open one, both in reverse, the
redirections, and the operator that waits for its target. -/
structure Grouping where
  stages : List Command := []
  current : List Text := []
  stdout : Option Redirect := none
  stderr : Option Redirect := none
  pending : Option RedirectOperator := none
  deriving DecidableEq, Repr

namespace Grouping

/-- Records the target of a redirection in place of an earlier one of the same output. -/
def redirect (g : Grouping) (op : RedirectOperator) (path : Text) : Grouping :=
  match op.output with
  | .stdout => { g with stdout := some ⟨path, op.appends⟩ }
  | .stderr => { g with stderr := some ⟨path, op.appends⟩ }

def close (g : Grouping) : Except ParseError Grouping :=
  match command g.current.reverse with
  | .error e => .error e
  | .ok c => .ok { g with stages := c :: g.stages, current := [] }

def step (g : Grouping) (w : Word) : Except ParseError Grouping :=
  match g.pending with
  | some op => .ok ({ g with pending := none }.redirect op w.text)
  | none =>
    match w.operator? with
    | some .pipe => g.close
    | some (.redirect op) => .ok { g with pending := some op }
    | none => .ok { g with current := w.text :: g.current }

def finish (g : Grouping) : Except ParseError Pipeline :=
  match g.pending with
  | some op => .error (.missingTarget op)
  | none =>
    match g.close with
    | .error e => .error e
    | .ok g => .ok ⟨g.stages.reverse, g.stdout, g.stderr⟩

end Grouping

/-- `parse`. -/
def ofWords (words : List Word) : Except ParseError Pipeline :=
  match words.foldlM Grouping.step {} with
  | .error e => .error e
  | .ok g => g.finish

/-- `split_line`. -/
def ofLine (line : Text) : Except ParseError Pipeline :=
  match Word.scan line with
  | .error mark => .error (.unclosedQuote mark)
  | .ok words => ofWords words

example : ofLine "a b 2>> e | c > | d".runes =
    .ok ⟨[⟨"a".runes, ["b".runes]⟩, ⟨"c".runes, ["d".runes]⟩], some ⟨"|".runes, false⟩,
      some ⟨"e".runes, true⟩⟩ := by rfl
example : ofLine "a | > x".runes = .error .emptyCommand := by rfl
example : ofLine "a >".runes = .error (.missingTarget .out) := by rfl

end Pipeline
end PipelineShell
