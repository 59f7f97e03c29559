import PipelineShell.Text.Order
import PipelineShell.Completion.Trie

/-!
# Completing a prefix

`Completer.complete` with its four answers. An ambiguous prefix rings the bell and is listed when it
is asked for again (`pending_prefix`).
-/

namespace PipelineShell

/-- `Completion` with its kinds. -/
inductive Completion
  | none
  | full (word : Text)
  | extended (text : Text)
  | bell (start : Text)
  | listing (start : Text) (candidates : List Text)
  deriving DecidableEq, Repr

/-- The text that stands after the request, if it changes anything. -/
def Completion.text : Completion → Text
  | .none => []
  | .full t | .extended t | .bell t | .listing t _ => t

def Completion.candidates : Completion → List Text
  | .listing _ words => words
  | _ => []

def Completion.line (c : Completion) : Text := Text.join [.char ' ', .char ' '] c.candidates

/-- The words, and the ambiguous prefix asked for last (`pending_prefix`). -/
structure Completer where
  trie : Trie
  pending : Option Text := Option.none
  deriving DecidableEq, Repr

namespace Completer

def ofList (words : List Text) : Completer := { trie := Trie.ofList words }

def insert (c : Completer) (word : Text) : Completer := { c with trie := c.trie.insert word }

/-- `complete`. -/
def complete (c : Completer) (start : Text) : Completion × Completer :=
  match c.trie.wordsWithPrefix start with
  | [] => (.none, c)
  | [word] => (.full word, c)
  | words =>
    let shared := c.trie.longestCommonPrefix start
    if shared.length > start.length then (.extended shared, c)
    else if c.pending = some start then
      (.listing start (Text.sort words), { c with pending := Option.none })
    else (.bell start, { c with pending := some start })

end Completer
end PipelineShell
