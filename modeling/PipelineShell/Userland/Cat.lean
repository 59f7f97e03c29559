import PipelineShell.Userland.Options
import PipelineShell.Userland.Quoting

/-!
# `cat`

Writes its operands, with lines numbered, empty lines squeezed or control characters shown.
-/

namespace PipelineShell.Userland.Cat

/-- What is to be done to the bytes. -/
structure Style where
  number : Bool := false
  onlyFilled : Bool := false
  squeeze : Bool := false
  showEnds : Bool := false
  showTabs : Bool := false
  showOthers : Bool := false
  deriving DecidableEq

def Style.isPlain (s : Style) : Bool := s = {}

/-- How far a line has come: so many ends of lines follow each other; none if a line is open. -/
structure Progress where
  ends : Option Nat := some 0
  lines : Nat := 0
  returning : Bool := false

def label (n : Nat) : Bytes :=
  let digits := Chars.ofNat n
  Octets.toBytes (List.replicate (6 - digits.length) ' ' ++ digits ++ ['\t'])

def visible (s : Style) (b : UInt8) : Bytes :=
  if b = 9 then (if s.showTabs then [94, 73] else [9])
  else if !s.showOthers then [b]
  else
    let low (c : UInt8) : Bytes := if c < 32 then [94, c + 64] else if c = 127 then [94, 63] else [c]
    if b < 128 then low b else 77 :: 45 :: low (b - 128)

def lineEnd (s : Style) (p : Progress) : Bytes :=
  if !s.showEnds then [10] else if p.returning then [94, 77, 36, 10] else [36, 10]

def format (s : Style) (p : Progress) (out : Bytes) : Bytes → Bytes × Progress
  | [] => (out, p)
  | b :: rest =>
    if b = 10 then
      match p.ends with
      | none => format s { p with ends := some 0, returning := false }
          ((lineEnd s p).reverse ++ out) rest
      | some n =>
        if n ≥ 1 && s.squeeze then format s { p with ends := some 2 } out rest
        else
          let lines := if s.number && !s.onlyFilled then p.lines + 1 else p.lines
          let before := if s.number && !s.onlyFilled then label lines else []
          format s { ends := some (n + 1), lines, returning := false }
            ((before ++ lineEnd s p).reverse ++ out) rest
    else
      let out := if p.returning then 13 :: out else out
      let numbered := s.number && p.ends.isSome
      let lines := if numbered then p.lines + 1 else p.lines
      let out := if numbered then (label lines).reverse ++ out else out
      if b = 13 && s.showEnds && !s.showOthers then
        format s { ends := none, lines, returning := true } out rest
      else
        format s { ends := none, lines, returning := false } ((visible s b).reverse ++ out) rest

def known : Known where
  letters := "AbeEnstTuv".toList.map (·, .none)
  words :=
    [("number-nonblank", 'b'), ("number", 'n'), ("squeeze-blank", 's'), ("show-nonprinting", 'v'),
      ("show-ends", 'E'), ("show-tabs", 'T'), ("show-all", 'A')].map fun (w, c) =>
      (w.toList, .none, c)
  name := "cat"
  uses := ["[OPTION]... [FILE]..."]

def Style.add (s : Style) : Char → Style
  | 'A' => { s with showOthers := true, showEnds := true, showTabs := true }
  | 'b' => { s with number := true, onlyFilled := true }
  | 'e' => { s with showOthers := true, showEnds := true }
  | 'E' => { s with showEnds := true }
  | 'n' => { s with number := true }
  | 's' => { s with squeeze := true }
  | 't' => { s with showOthers := true, showTabs := true }
  | 'T' => { s with showTabs := true }
  | 'v' => { s with showOthers := true }
  | _ => s

def feedsItself (m : Machine) (input output : Nat) : Bool :=
  match m.handle? input, m.handle? output with
  | some source, some sink =>
    let written := if sink.append then (m.contentAt sink.place).size else sink.position
    source.place = sink.place && source.position < written
  | _, _ => false

def put (c : Call) (data : Bytes) : Work Unit := do
  Work.failOn c 1 "write error".toList (← Work.send c data)

def copy (c : Call) (s : Style) (number : Nat) (p : Progress) :
    Work (Option SystemError × Progress) :=
  Work.forBlocks number (fun p data => do
    if s.isPlain then
      put c data
      return p
    else
      let (out, p) := format s p [] data
      put c out.reverse
      return p) p

def run (c : Call) (s : Style) : List Chars → Progress → Work Unit
  | [], p => if p.returning then put c [13] else return
  | operand :: rest, p => do
    let failing (message : Chars) : Work Unit :=
      Work.complain c 1 (Quoting.name operand ++ ": ".toList ++ message)
    match ← Work.openOperand c operand with
    | .error e => do
      failing e.wording
      run c s rest p
    | .ok number =>
      let output := (c.descriptors.lookup 1).getD 0
      if ← Work.task (Task.ask fun m => feedsItself m number output) then
        failing "input file is output file".toList
        run c s rest p
      else
        let (e, p) ← copy c s number p
        match e with
        | some e => failing e.wording
        | none => pure ()
        run c s rest p

def work (c : Call) : Work Unit := do
  let args := c.arguments known
  match args.ending with
  | some ending => Work.conclude c 1 ending
  | none =>
    if (c.descriptors.lookup 1).isNone then
      Work.fail c 1 ("standard output: ".toList ++ SystemError.badDescriptor.wording)
    let style := args.options.foldl (fun (s : Style) o => s.add o.1) {}
    let operands := if args.operands.isEmpty then [['-']] else args.operands
    run c style operands {}
    Work.closeInput c operands 1 "closing standard input".toList

end Cat

def cat : Utility := Manner.utility {} Cat.work

end PipelineShell.Userland
