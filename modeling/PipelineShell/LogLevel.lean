import PipelineShell.Text.Basic

/-!
# Log levels

The level that `setup_logging` chooses by name. A name that is not known gives `WARNING`.
-/

namespace PipelineShell

/-- How grave a message must be to be logged. -/
inductive LogLevel
  | all
  | debug
  | info
  | warning
  | error
  | critical
  deriving DecidableEq, Repr

namespace LogLevel

def number : LogLevel → Nat
  | .all => 0
  | .debug => 10
  | .info => 20
  | .warning => 30
  | .error => 40
  | .critical => 50

/-- The upper-case form of a character, as far as it is made of ASCII letters; the names of levels
hold no others. -/
def upper : Rune → Text
  | .lone half => [.lone half]
  | .char c =>
    if 'a' ≤ c ∧ c ≤ 'z' then [c.toUpper]
    else
      match c with
      | 'ß' => [.char 'S', .char 'S']
      | 'ı' => [.char 'I']
      | 'ſ' => [.char 'S']
      | 'ﬀ' => [.char 'F', .char 'F']
      | 'ﬁ' => [.char 'F', .char 'I']
      | 'ﬂ' => [.char 'F', .char 'L']
      | 'ﬃ' => [.char 'F', .char 'F', .char 'I']
      | 'ﬄ' => [.char 'F', .char 'F', .char 'L']
      | 'ﬅ' | 'ﬆ' => [.char 'S', .char 'T']
      | c => [c]

def names : List (Text × LogLevel) :=
  [("NOTSET".runes, .all), ("DEBUG".runes, .debug), ("INFO".runes, .info),
    ("WARN".runes, .warning), ("WARNING".runes, .warning), ("ERROR".runes, .error),
    ("CRITICAL".runes, .critical), ("FATAL".runes, .critical)]

/-- What a name chooses. -/
inductive Choice
  | level (l : LogLevel)
  | form (pattern : Text)
  deriving DecidableEq, Repr

def formName : Text := "BASIC_FORMAT".runes

/-- The form of messages: the name of the level, that of the source, and the message. -/
def basicForm : Text := "%(levelname)s:%(name)s:%(message)s".runes

def ofName (name : Text) : Choice :=
  let name := name.flatMap upper
  if name = formName then .form basicForm else .level ((names.lookup name).getD .warning)

def variableName : Text := "PIPESH_LOG_LEVEL".runes

/-- `setup_logging`: the level that is asked for, else that of the environment, else `WARNING`. An
empty name counts as none. -/
def choose (asked environment : Option Text) : Choice :=
  match (asked.filter (· ≠ [])).or (environment.filter (· ≠ [])) with
  | some name => ofName name
  | none => .level .warning

example : choose none (some "ınfo".runes) = .level .info := by decide
example : choose (some []) (some "Fatal".runes) = .level .critical := by decide

end LogLevel
end PipelineShell
