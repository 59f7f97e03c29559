import PipelineShell.Completion.Completer

/-!
# Completion in a line editor

`ReadlineCompleter`: candidate 0 is the completion, and there is no other. The bell and the listing
are written to the terminal, a listing with the prompt and the line behind it.
-/

namespace PipelineShell

/-- What a completer needs to know of the editor: its prompt and the line typed so far. -/
structure LineEditor where
  prompt : Text
  buffer : Text
  deriving DecidableEq, Repr

/-- The answer to an editor: a replacement for the text, and what is written to the terminal. -/
structure Offer where
  value : Option Text := none
  output : Text := []
  deriving DecidableEq, Repr

def bellChar : Rune := '\x07'

namespace LineEditor

def offer (e : LineEditor) (c : Completion) : Offer :=
  match c with
  | .none => {}
  | .full word => { value := some (word ++ [.char ' ']) }
  | .extended text => { value := some text }
  | .bell _ => { output := [bellChar] }
  | .listing _ _ => { output := .char '\n' :: c.line ++ .char '\n' :: e.prompt ++ e.buffer }

/-- `ReadlineCompleter.__call__` for candidate `number` of a text. -/
def ask (e : LineEditor) (c : Completer) (text : Text) (number : Int) : Offer × Completer :=
  if number = 0 then
    let (completion, c) := c.complete text
    (e.offer completion, c)
  else ({}, c)

end LineEditor
end PipelineShell
