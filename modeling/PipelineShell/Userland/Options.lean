import PipelineShell.Userland.Basic

/-!
# Options of utilities

Short options and long ones, which may be abbreviated, permuted among the operands; `--` ends them.
All utilities know `--help` and `--version`.
-/

namespace PipelineShell.Userland

/-- Whether an option takes an argument. -/
inductive Arity
  | none
  | required
  | optional
  | number
  deriving DecidableEq, Repr

/-- The options that a utility knows: letters, and words with the letter each is the same as. -/
structure Known where
  letters : List (Char × Arity)
  words : List (Chars × Arity × Char) := []
  name : String := ""
  uses : List String := []

/-- A part of a call. -/
inductive Argument
  | option (letter : Char) (value : Option Chars)
  | operand (t : Chars)
  deriving DecidableEq, Repr

namespace Known

abbrev Fault := Chars

/-- The letters that stand for the words known to all utilities. -/
def helpLetter : Char := '\x01'

@[inherit_doc helpLetter]
def versionLetter : Char := '\x02'

def withCommon (k : Known) : Known :=
  { k with
    words := k.words ++
      [("help".toList, .none, helpLetter), ("version".toList, .none, versionLetter)] }

def word (k : Known) (name : Chars) : Except (List Chars) (Chars × Arity × Char) :=
  match k.words.find? (·.1 = name) with
  | some w => .ok w
  | none =>
    match k.words.filter (name.isPrefixOf ·.1) with
    | [] => .error []
    | w :: rest =>
      if rest.all (·.2 = w.2) then .ok w
      else .error ((w :: rest.filter (·.2 ≠ w.2)).map (·.1))

def readWord (k : Known) (t : Chars) (rest : List Chars) :
    Except Fault (Argument × List Chars) :=
  let name := t.takeWhile (· ≠ '=')
  let value := (t.drop name.length).tail?
  match k.word name with
  | .error [] => .error ("unrecognized option '--".toList ++ t ++ ['\''])
  | .error candidates =>
    .error ("option '--".toList ++ t ++ "' is ambiguous; possibilities:".toList ++
      candidates.flatMap fun w => " '--".toList ++ w ++ ['\''])
  | .ok (w, arity, letter) =>
    match arity, value, rest with
    | .none, some _, _ =>
      .error ("option '--".toList ++ w ++ "' doesn't allow an argument".toList)
    | .none, none, rest | .number, _, rest => .ok (.option letter none, rest)
    | .optional, value, rest => .ok (.option letter value, rest)
    | .required, some value, rest => .ok (.option letter (some value), rest)
    | .required, none, value :: rest => .ok (.option letter (some value), rest)
    | .required, none, [] =>
      .error ("option '--".toList ++ w ++ "' requires an argument".toList)

def addDigit (c : Char) : List Argument → List Argument
  | .option d (some value) :: rest =>
    if d.isDigit then .option c (some (c :: value)) :: rest
    else .option c (some [c]) :: .option d (some value) :: rest
  | rest => .option c (some [c]) :: rest

def readLetters (k : Known) (rest : List Chars) : Chars → List Argument × Except Fault (List Chars)
  | [] => ([], .ok rest)
  | c :: more =>
    match k.letters.lookup c with
    | some .number =>
      let (options, rest) := readLetters k rest more
      (addDigit c options, rest)
    | none => ([], .error ("invalid option -- '".toList ++ [c, '\'']))
    | some .none =>
      let (options, rest) := readLetters k rest more
      (.option c none :: options, rest)
    | some .optional => ([.option c (if more.isEmpty then none else some more)], .ok rest)
    | some .required =>
      if more.isEmpty then
        match rest with
        | [] => ([], .error ("option requires an argument -- '".toList ++ [c, '\'']))
        | value :: rest => ([.option c (some value)], .ok rest)
      else ([.option c (some more)], .ok rest)

def read (k : Known) (ordered : Bool) : (fuel : Nat) → List Chars → List Argument × Option Fault
  | 0, _ | _, [] => ([], none)
  | fuel + 1, arg :: rest =>
    match arg with
    | ['-', '-'] => (rest.map .operand, none)
    | '-' :: '-' :: t =>
      match k.readWord t rest with
      | .error fault => ([], some fault)
      | .ok (option, rest) =>
        let (more, fault) := read k ordered fuel rest
        (option :: more, fault)
    | '-' :: c :: t =>
      match k.readLetters rest (c :: t) with
      | (options, .error fault) => (options, some fault)
      | (options, .ok rest) =>
        let (more, fault) := read k ordered fuel rest
        (options ++ more, fault)
    | _ =>
      if ordered then (.operand arg :: rest.map .operand, none)
      else
        let (more, fault) := read k ordered fuel rest
        (.operand arg :: more, fault)

end Known

def Known.usage (k : Known) (name : Chars) : Chars :=
  (k.uses.zipIdx.flatMap fun (use, i) =>
    (if i = 0 then "Usage: " else "  or:  ").toList ++ name ++ ' ' :: use.toList ++ ['\n'])

def Known.version (k : Known) : Chars := k.name.toList ++ " (GNU coreutils) 9.1\n".toList

/-- Why a call is not followed to the end. -/
inductive Ending
  | fault (message : Known.Fault)
  | notice (message : Chars)
  deriving DecidableEq, Repr

/-- The options of a call in order and its operands, and what comes in place of its work, if
anything does. -/
structure Arguments where
  options : List (Char × Option Chars)
  operands : List Chars
  ending : Option Ending

/-- The options and operands among arguments up to a fault, if there is one; a notice asked for
comes first. -/
def Arguments.ofList (k : Known) (name : Chars) (all : List Argument)
    (fault : Option Known.Fault) : Arguments :=
  let options := all.filterMap fun
    | .option letter value => some (letter, value)
    | .operand _ => none
  let before := options.takeWhile fun o => o.1 ≠ Known.helpLetter && o.1 ≠ Known.versionLetter
  { options := before
    operands := all.filterMap fun
      | .option _ _ => none
      | .operand t => some t
    ending :=
      match options.drop before.length with
      | [] => fault.map .fault
      | (letter, _) :: _ =>
        some (.notice (if letter = Known.helpLetter then k.usage name else k.version)) }

def Call.arguments (c : Call) (k : Known) : Arguments :=
  let (all, fault) := k.withCommon.read c.isOrdered (c.args.length + 1) c.args
  .ofList k c.name all fault

/-- Ends in place of the work of a utility; `status` is that of a call that is not understood. -/
def Work.conclude {α : Type} (c : Call) (status : Int) : Ending → Work α
  | .fault message => Work.misuse c status message
  | .notice message => do
    Work.print c (Octets.toBytes message)
    Work.failOn c 1 "write error".toList (← Work.flush c)
    Work.exit c 0

def Ending.deed (c : Call) (d : Desk) : Ending → Deed
  | .fault message => c.misuse d 1 message
  | .notice message => { written := [(.stdout, Octets.toBytes message)], files := d.files }

end PipelineShell.Userland
