import PipelineShell.Text.Chars

/-!
# Builtins of scripts

Special builtins keep their assignments and end the shell when they fail; declaring ones take
assignments as arguments.
-/

namespace PipelineShell.Script

/-- The commands that the shell carries out itself. -/
inductive Verb
  | setAlias
  | background
  | breakLoop
  | changeDirectory
  | command
  | continueLoop
  | echo
  | evaluate
  | exec
  | exit
  | exportOf
  | fail
  | foreground
  | getopts
  | hash
  | sourceFile
  | jobs
  | kill
  | localOf
  | nothing
  | print
  | pwd
  | read
  | readonly
  | returnFrom
  | set
  | shift
  | succeed
  | test
  | times
  | trap
  | type
  | ulimit
  | umask
  | unalias
  | unset
  | wait
  deriving DecidableEq, Repr

namespace Verb

def names : List (Chars × Verb) :=
  [(".", sourceFile), (":", nothing), ("[", test), ("alias", setAlias), ("bg", background),
    ("break", breakLoop), ("cd", changeDirectory), ("chdir", changeDirectory), ("command", command),
    ("continue", continueLoop), ("echo", echo), ("eval", evaluate), ("exec", exec), ("exit", exit),
    ("export", exportOf), ("false", fail), ("fg", foreground), ("getopts", getopts),
    ("hash", hash), ("jobs", jobs), ("kill", kill), ("local", localOf), ("printf", print),
    ("pwd", pwd), ("read", read), ("readonly", readonly), ("return", returnFrom), ("set", set),
    ("shift", shift), ("test", test), ("times", times), ("trap", trap), ("true", succeed),
    ("type", type), ("ulimit", ulimit), ("umask", umask), ("unalias", unalias), ("unset", unset),
    ("wait", wait)].map fun (n, v) => (String.toList n, v)

def ofName? (name : Chars) : Option Verb := names.lookup name

def isSpecial : Verb → Bool
  | sourceFile | nothing | breakLoop | continueLoop | evaluate | exec | exit | exportOf | readonly
  | returnFrom | set | shift | times | trap | unset | localOf => true
  | _ => false

def isMarking : Verb → Bool
  | exportOf | readonly | localOf | setAlias => true
  | _ => false

def isRegular : Verb → Bool
  | echo | hash | print | pwd | test | type | ulimit => false
  | _ => true

end Verb
end PipelineShell.Script
