import PipelineShell.Failure
import PipelineShell.FileSystem.Basic
import PipelineShell.Session

/-!
# What a builtin does

A builtin as the reads, writes and look-ups that it makes one after another, each depending on the
answers to those before. It changes the directory of the session and appends to the history only.
-/

namespace PipelineShell

/-- What a builtin sees when it looks around. -/
structure View where
  session : Session
  files : FileSystem
  base : Text
  builtins : List Text

/-- The behaviour of a running builtin, up to its end. -/
inductive Behaviour
  | done (status : Int)
  | fail (failure : Failure)
  | read (size : Option Nat) (next : Bytes → Behaviour)
  | write (data : Bytes) (next : Behaviour)
  | complain (data : Bytes) (next : Behaviour)
  | look (next : View → Behaviour)
  | enter (directory : Text) (next : Behaviour)
  | remember (entries : List Text) (next : Behaviour)

abbrev Builtin := List Text → Behaviour

namespace Behaviour

/-- `write` on the output: a line, which fails if it has no encoding. -/
def say (line : Text) (next : Behaviour) : Behaviour :=
  match Utf8.encode (line ++ [.char '\n']) with
  | .error e => .fail (.unencodable e)
  | .ok data => .write data next

end Behaviour
end PipelineShell
