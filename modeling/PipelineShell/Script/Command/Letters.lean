import PipelineShell.Script.Shell

/-!
# Options of commands

The options of a command are letters behind a minus sign, which stand before its other arguments;
two minus signs end them. An option may take the rest of its argument, or the next one.
-/

namespace PipelineShell.Script.Command

open Script.Shell

def lettersOf (known : List (Char × Bool)) : Chars → List Chars → Run (List (Char × Chars) × List Chars)
  | [], args => return ([], args)
  | c :: rest, args =>
    match known.lookup c with
    | none => fail ("Illegal option -".toList ++ [c])
    | some false => do
      let (more, args) ← lettersOf known rest args
      return ((c, []) :: more, args)
    | some true =>
      if !rest.isEmpty then return ([(c, rest)], args)
      else
        match args with
        | [] => fail ("No arg for -".toList ++ c :: " option".toList)
        | arg :: args => return ([(c, arg)], args)

/-- The options at the beginning of arguments, and the arguments behind them; the count of arguments
bounds the steps. -/
def options (known : List (Char × Bool)) : Nat → List Chars → Run (List (Char × Chars) × List Chars)
  | 0, args => return ([], args)
  | fuel + 1, args =>
    match args with
    | ['-', '-'] :: rest => return ([], rest)
    | ('-' :: c :: letters) :: rest => do
      let (found, rest) ← lettersOf known (c :: letters) rest
      let (more, rest) ← options known fuel rest
      return (found ++ more, rest)
    | args => return ([], args)

def readOptions (known : List (Char × Bool)) (args : List Chars) :
    Run (List (Char × Chars) × List Chars) :=
  options known args.length.succ args

def withoutOptions (args : List Chars) : Run (List Chars) := do
  let (_, rest) ← readOptions [] args
  return rest

end PipelineShell.Script.Command
