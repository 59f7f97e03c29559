import PipelineShell.Builtin.Behaviour
import PipelineShell.SearchPath
import PipelineShell.Text.Lines

/-!
# The standard builtins

`exit`, `echo`, `type`, `pwd`, `cd` and `history`.
-/

namespace PipelineShell.Builtin

def exit : Builtin
  | [] => .fail (.exit 0)
  | status :: _ =>
    match Text.Numeral.read status with
    | .ok n => .fail (.exit n)
    | .error e => .fail (.numeral status e)

def echo : Builtin := fun args => .say (Text.join [.char ' '] args) (.done 0)

def type : Builtin
  | [] => .say "type: usage: type name".runes (.done 0)
  | name :: _ => .look fun view =>
    if name ∈ view.builtins then .say (name ++ " is a shell builtin".runes) (.done 0)
    else
      match SearchPath.locate view.files view.base view.session.searchPath view.session.cwd name
      with
      | some path => .say (name ++ " is ".runes ++ path) (.done 0)
      | none => .say (name ++ ": not found".runes) (.done 1)

def pwd : Builtin := fun _ => .look fun view => .say view.session.cwd (.done 0)

/-- The target of a change of directory: a leading `~` that is a whole name stands for the home
directory, if there is one. -/
def expandHome (home : Option Text) (target : Text) : Text :=
  match target, home with
  | [.char '~'], some home => home
  | .char '~' :: .char '/' :: rest, some home => home ++ .char '/' :: rest
  | _, _ => target

/-- Changes the directory of the session. A target that is no directory is told on the ordinary
output. -/
def cd : Builtin
  | [] => .done 0
  | target :: _ => .look fun view =>
    let home := view.session.env.get? "HOME".runes
    let directory := view.session.resolve (expandHome home target)
    if view.files.isDirectory view.base directory then .enter directory (.done 0)
    else .say ("cd: ".runes ++ directory ++ ": No such file or directory".runes) (.done 1)

/-- The entries of a history as they are listed, each behind its number. -/
def numbered : (first : Nat) → List Text → List Text
  | _, [] => []
  | n, entry :: rest => (Text.ofNat n ++ "  ".runes ++ entry) :: numbered (n + 1) rest

def list : List Text → Behaviour
  | [] => .done 0
  | line :: rest => .say line (list rest)

/-- How many entries of a history are listed for an argument: as many as it says, at most all and
at least none; all when it is no number. -/
def listedCount (size : Nat) (arg : Option Text) : Nat :=
  match arg.map Text.Numeral.read with
  | some (.ok n) => min n.toNat size
  | _ => size

def listHistory (arg : Option Text) : Behaviour :=
  .look fun view =>
    let history := view.session.history
    let start := history.length - listedCount history.length arg
    list (numbered (start + 1) (history.drop start))

/-- Adds the lines of a file to the history. Nothing is added unless the whole file is read. -/
def loadHistory (operand : Text) : Behaviour :=
  .look fun view =>
    let path := view.session.resolve operand
    match Text.unfit? path with
    | some failure => .fail failure
    | none =>
      match view.files.read view.base path with
      | .error e => .fail (.unreadable path e)
      | .ok bytes =>
        match Utf8.decode bytes with
        | .error e => .fail (.notUtf8 e)
        | .ok chars =>
          .remember (Text.lines (Text.unifyLineEnds (Text.ofChars chars))) (.done 0)

def history : Builtin
  | [] => listHistory none
  | arg :: rest =>
    if arg = [.char '-', .char 'r'] then
      match rest with
      | [] => .fail .missingOperand
      | operand :: _ => loadHistory operand
    else listHistory (some arg)

def standard : List (Text × Builtin) :=
  [("exit".runes, exit), ("echo".runes, echo), ("type".runes, type), ("pwd".runes, pwd),
    ("cd".runes, cd), ("history".runes, history)]

end PipelineShell.Builtin
