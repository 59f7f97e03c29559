import PipelineShell.Userland.Options

/-!
# Programs that do one thing

`true` and `false` only end, with one status or the other. `yes` writes a line again and again, as
long as somebody reads it.
-/

namespace PipelineShell.Userland

def idle (name : String) (status : Int) : Tool := fun c d =>
  let known : Known := { letters := [], name, uses := ["[ignored command line arguments]", "OPTION"] }
  let notice : Chars :=
    if c.args = ["--help".toList] then known.usage c.name
    else if c.args = ["--version".toList] then known.version
    else []
  { written := [(.stdout, Octets.toBytes notice)], status, files := d.files }

def copies (line : Bytes) : (count : Nat) → (rest : Bytes) → Bytes
  | 0, rest => rest
  | count + 1, rest => copies line count (line ++ rest)

def leastCopied : Nat := 16384

def yes : Utility := Manner.utility {} fun c => do
  let args := c.arguments { letters := [], name := "yes", uses := ["[STRING]...", "OPTION"] }
  match args.ending with
  | some ending => Work.conclude c 1 ending
  | none =>
    let words := if args.operands.isEmpty then [['y']] else args.operands
    let line := Octets.toBytes (Text.join [' '] words ++ ['\n'])
    let data := copies line (leastCopied / line.length + 1) []
    Work.loop (fun _ => do
      Work.failOn c 1 "standard output".toList (← Work.send c data)
      return (true, ())) ()

end PipelineShell.Userland
