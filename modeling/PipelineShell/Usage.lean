import PipelineShell.LogLevel
import PipelineShell.Session
import PipelineShell.Text.Numeral
import PipelineShell.Text.Order
import PipelineShell.Text.Quoted

/-!
# The arguments of the program

`parse_args`, which takes nothing but `-h` and the starts of `--help`, and its help text at a given
width.
-/

namespace PipelineShell.Usage

/-- What the arguments ask for. -/
inductive Answer
  | run
  | help
  | refuse (message : Text)
  deriving DecidableEq, Repr

/-- What one argument means. -/
inductive Argument
  | help
  /-- Help was asked for together with a value, which it does not take. -/
  | helpWith (value : Text)
  | unknown
  deriving DecidableEq, Repr

/-- What `-h` means with what follows it in the same argument: each further letter must be an `h`
again. What starts with anything else is taken for a value, and so is what follows an equals sign
directly behind the first `-h` if it is nothing. -/
def letters : Text → Argument
  | [] => .help
  | .char 'h' :: rest => letters rest
  | value => .helpWith value

/-- What `-h` means with what follows it in the same argument; an equals sign may stand between
the two. -/
def helpLetters : Text → Argument
  | [.char '='] => .helpWith []
  | .char '=' :: rest => letters rest
  | rest => letters rest

def valued (arg : Text) : Text × Option Text :=
  match arg.dropWhile (· ≠ .char '=') with
  | [] => (arg, none)
  | _ :: value => (arg.takeWhile (· ≠ .char '='), some value)

/-- What an argument other than `--` means. -/
def argument (arg : Text) : Argument :=
  match arg with
  | .char '-' :: .char '-' :: _ =>
    match valued arg with
    | (name, none) => if name.isPrefixOf "--help".runes then .help else .unknown
    | (name, some value) => if name.isPrefixOf "--help".runes then .helpWith value else .unknown
  | .char '-' :: .char 'h' :: rest => helpLetters rest
  | _ => .unknown

/-- Reads the arguments; the unknown ones so far are held in reverse. -/
def readFrom (unknown : List Text) : List Text → Answer
  | [] =>
    if unknown.isEmpty then .run
    else .refuse ("unrecognized arguments: ".runes ++ Text.join [.char ' '] unknown.reverse)
  | arg :: rest =>
    if arg = [.char '-', .char '-'] then
      .refuse ("unrecognized arguments: ".runes ++
        Text.join [.char ' '] (unknown.reverse ++ arg :: rest))
    else
      match argument arg with
      | .help => .help
      | .helpWith value =>
        .refuse ("argument -h/--help: ignored explicit argument ".runes ++ Text.quoted value)
      | .unknown => readFrom (arg :: unknown) rest

/-- `parse_args`. -/
def read (args : List Text) : Answer := readFrom [] args

def standardColumns : Nat := 80

def columns (env : Environment) : Nat :=
  match (env.get? "COLUMNS".runes).map Text.Numeral.read with
  | some (.ok n) => if 0 < n then n.toNat else standardColumns
  | _ => standardColumns

def margin : Nat := 2

/-- What is shown of how the program is called. What does not fit into one line is continued in a
second, under the name of the program. -/
def usageText (columns : Nat) : Text :=
  let before := "usage: ".runes
  let name := "pipesh".runes
  let options := "[-h]".runes
  let line := before ++ name ++ .char ' ' :: options
  if line.length + margin ≤ columns then line ++ [.char '\n']
  else
    before ++ name ++ .char '\n' ::
      (List.replicate before.length (.char ' ') ++ options ++ [.char '\n'])

/-- Shares words out among lines of at most `width` characters; a word that is longer has a line of
its own. The line begun is held in reverse. -/
def wrap (width : Nat) : (line : List Text) → List Text → List Text
  | [], [] => []
  | line, [] => [Text.join [.char ' '] line.reverse]
  | [], word :: rest => wrap width [word] rest
  | line, word :: rest =>
    if (Text.join [.char ' '] (word :: line)).length ≤ width then wrap width (word :: line) rest
    else Text.join [.char ' '] line.reverse :: wrap width [word] rest

/-- What is shown of one option, its meaning beside it if there is place for both and below it
otherwise. -/
def optionText (columns : Nat) (option meaning : Text) : Text :=
  let indent := 2
  let position :=
    min (option.length + 2 * indent) (min 24 (max (columns - margin - 20) (2 * indent)))
  let width := max (columns - margin - position) 11
  let shift : Text := List.replicate position ' '
  let lines := wrap width [] (Text.splitOn ' ' meaning)
  let below (lines : List Text) : Text := lines.flatMap fun line => shift ++ line ++ [.char '\n']
  let start := List.replicate indent (.char ' ') ++ option
  if option.length + 2 * indent ≤ position then
    start ++ List.replicate (position - start.length) (.char ' ') ++ lines.headD [] ++
      .char '\n' :: below (lines.drop 1)
  else start ++ .char '\n' :: below lines

def helpText (columns : Nat) (builtins : List Text) : Text :=
  usageText columns ++
    "\npipesh - a small interactive shell with pipelines and redirection\n".runes ++
    "\noptions:\n".runes ++
    optionText columns "-h, --help".runes "show this help message and exit".runes ++
    "\nBuiltins: ".runes ++ Text.join [.char ',', .char ' '] (Text.sort builtins) ++
    "\n\nEnvironment:\n  ".runes ++ LogLevel.variableName ++
    "    logging level for internal diagnostics (default WARNING)\n".runes

def refusalText (columns : Nat) (message : Text) : Text :=
  usageText columns ++ "pipesh: error: ".runes ++ message ++ [.char '\n']

def refusalStatus : Int := 2

example : read ["--he".runes] = .help := by decide
example : read ["--".runes, "x".runes] = .refuse "unrecognized arguments: -- x".runes := by
  decide

end PipelineShell.Usage
