import PipelineShell.Line.Pipeline
import PipelineShell.Text.Quoted

/-!
# Layout of a pipeline

`format_pipeline`: a line for each stage and for each redirected output.
-/

namespace PipelineShell

def Redirect.sign (r : Redirect) : Text := if r.append then [.char '>', .char '>'] else [.char '>']

namespace Pipeline

def stageLine (c : Command) : Text := "CMD  ".runes ++ Text.join [.char ' '] c.argv

def redirectLine (label : Text) (r : Redirect) : Text :=
  label ++ .char ' ' :: .char ' ' :: r.sign ++ .char ' ' :: r.path

def layoutLines (p : Pipeline) : List Text :=
  p.stages.map stageLine ++ (p.stdout.map (redirectLine "OUT".runes)).toList ++
    (p.stderr.map (redirectLine "ERR".runes)).toList

/-- `format_pipeline`; a pipeline with nothing in it is shown as empty. -/
def layout (p : Pipeline) : Text :=
  match p.layoutLines with
  | [] => "<empty>".runes
  | lines => Text.join [.char '\n'] lines

end Pipeline

def Word.shown (w : Word) : Text :=
  "Word(".runes ++ Text.quoted w.text ++ ", quoted=".runes ++
    (if w.quoted then "True".runes else "False".runes) ++ [.char ')']

end PipelineShell
