import PipelineShell.Path
import PipelineShell.Text.Utf8

/-!
# Sessions

`ShellSession`: environment, directory and history, the rest of the input, and what has been written
to the two outputs.
-/

namespace PipelineShell

abbrev Environment := List (Text × Text)

namespace Environment

def get? (env : Environment) (name : Text) : Option Text :=
  match env with
  | [] => none
  | (n, value) :: rest => if n = name then some value else get? rest name

def set (env : Environment) (name value : Text) : Environment :=
  match env with
  | [] => [(name, value)]
  | (n, v) :: rest => if n = name then (n, value) :: rest else (n, v) :: set rest name value

def unset (env : Environment) (name : Text) : Environment := env.filter (·.1 ≠ name)

theorem get?_set (env : Environment) (name value other : Text) :
    (env.set name value).get? other = if other = name then some value else env.get? other := by
  induction env with
  | nil => grind [set, get?]
  | cons nv rest ih =>
    obtain ⟨n, v⟩ := nv
    grind [set, get?]

end Environment

/-- `ShellSession`, with what has come to its streams. -/
structure Session where
  env : Environment := []
  cwd : Text
  history : List Text := []
  stdin : Bytes := []
  stdout : Bytes := []
  stderr : Bytes := []
  deriving DecidableEq, Repr

namespace Session

/-- A new session; `base` is the directory of the running process, which an empty `cwd` stands for.
-/
def start (base cwd : Text) (env : Environment) (stdin : Bytes) (history : List Text) : Session :=
  { env, cwd := Path.absolute base (if cwd = [] then base else cwd), stdin, history }

/-- `get_path`. -/
def searchPath (s : Session) : Option Text := s.env.get? "PATH".runes

/-- `resolve_path`. -/
def resolve (s : Session) (path : Text) : Text := Path.absolute s.cwd path

/-- `set_cwd`. -/
def enter (s : Session) (directory : Text) : Session :=
  { s with cwd := directory, env := s.env.set "PWD".runes directory }

def remember (s : Session) (entries : List Text) : Session :=
  { s with history := s.history ++ entries }

/-- `report`: writes a message to the error output, unless it has no encoding. -/
def report (s : Session) (message : Text) : Except Utf8.Unencodable Session :=
  (Utf8.encode (message ++ [.char '\n'])).map fun data => { s with stderr := s.stderr ++ data }

end Session
end PipelineShell
