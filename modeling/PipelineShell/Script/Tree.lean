import PipelineShell.Text.Chars

/-!
# Scripts as trees

A script is a tree of commands. Words are kept in parts until they are expanded, so that what was
quoted is known then. Characters in a script stand for octets.
-/

namespace PipelineShell.Script

mutual

/-- A part of a word. What is quoted stands for itself and is not split. -/
inductive Part
  | literal (quoted : Bool) (text : Chars)
  | mark
  | parameter (quoted : Bool) (name : Chars) (use : Use)
  | arithmetic (quoted : Bool) (expression : List Part)
  | output (quoted : Bool) (body : Option Node)

/-- What is made of the value of a parameter. -/
inductive Use
  | value
  | length
  /-- Something else when it is unset or, with `nonempty`, empty; or, for `+`, when it is not. -/
  | otherwise (nonempty : Bool) (action : Char) (word : List Part)
  | trim (atEnd longest : Bool) (pattern : List Part)
  | unknown

/-- A change of where a command reads or writes. -/
inductive Redirection
  | file (descriptor : Nat) (access : Access) (target : List Part)
  | same (descriptor : Nat) (target : List Part)
  | document (descriptor : Nat) (number : Nat)

/-- How a file is opened. -/
inductive Access
  | read
  | write
  | overwrite
  | append
  | both

/-- A command with the line it starts on. -/
inductive Node
  | simple (line : Nat) (assignments : List (Chars × List Part)) (words : List (List Part))
      (redirections : List Redirection)
  | pipeline (stages : List Node) (background : Bool)
  | negation (body : Node)
  | both (first second : Node)
  | either (first second : Node)
  | sequence (first second : Node)
  | subshell (line : Nat) (body : Node) (redirections : List Redirection)
  | background (line : Nat) (body : Node) (redirections : List Redirection)
  | redirected (line : Nat) (body : Node) (redirections : List Redirection)
  | branch (condition body : Node) (otherwise : Option Node)
  | loop (untilTrue : Bool) (condition body : Node)
  | each (line : Nat) (name : Chars) (words : List (List Part)) (body : Node)
  | select (line : Nat) (subject : List Part) (arms : List (List (List Part) × Option Node))
  | define (line : Nat) (name : Chars) (body : Node)

end

/-- A text in a script that a command reads. -/
structure Document where
  body : List Part
  expanded : Bool

end PipelineShell.Script
