import PipelineShell.FileSystem.Tree
import PipelineShell.Script.Interpreter
import PipelineShell.Userland.Cat
import PipelineShell.Userland.Constant
import PipelineShell.Userland.Head
import PipelineShell.Userland.Permissions
import PipelineShell.Userland.Printf
import PipelineShell.Userland.Removal
import PipelineShell.Userland.Search
import PipelineShell.Userland.Sorting
import PipelineShell.Userland.Translate
import PipelineShell.Userland.WordCount

/-!
# A small system

The programs of the command line: `Programs`, which is a parameter elsewhere, as some utilities and
scripts on files held in memory.
-/

namespace PipelineShell.Userland

def utilities : List (Chars × Utility) :=
  [("cat", cat), ("chmod", chmod.utility), ("false", (idle "false" 1).utility), ("grep", grep),
    ("head", head), ("printf", printf.utility), ("rmdir", rmdir.utility), ("sort", sort), ("tr", tr),
    ("true", (idle "true" 0).utility), ("wc", wc), ("yes", yes)].map fun (n, u) =>
    (String.toList n, u)

def interpreterNames : List Chars := ["sh".toList, "dash".toList]

def utility? (host : Script.Host) (name : Chars) : Option Utility :=
  if interpreterNames.contains name then some (Script.Interpreter.interpreter host)
  else utilities.lookup name

def devices : List (String × Device) :=
  [("null", .null), ("zero", .zero), ("full", .full), ("tty", .terminal), ("random", .zero),
    ("urandom", .zero)]

def links : List (String × String) :=
  [("/bin", "usr/bin"), ("/sbin", "usr/sbin"), ("/lib", "usr/lib"), ("/dev/fd", "/proc/self/fd"),
    ("/dev/stdin", "/proc/self/fd/0"), ("/dev/stdout", "/proc/self/fd/1"),
    ("/dev/stderr", "/proc/self/fd/2")]

def descriptorCount : Nat := 10

def placeIn (directory : String) (name : Chars) : Place :=
  (FileSystem.steps directory.runes).map Text.stored ++ [Utf8.encodeChars name]

def files : FileSystem :=
  let directories : List Text :=
    ["/tmp", "/dev/shm", "/dev/pts", "/etc", "/home", "/root", "/var/tmp", "/usr/bin", "/usr/sbin",
      "/usr/lib", "/usr/local/bin", "/opt", "/mnt", "/media", "/srv", "/boot", "/run", "/sys",
      "/proc/self/fd"].map String.runes
  let fs := directories.foldl (fun fs path => fs.addDirectories [.char '/'] path) ({} : FileSystem)
  let fs := (interpreterNames ++ utilities.map (·.1)).foldl (fun (fs : FileSystem) name =>
    fs.set (placeIn "/usr/bin" name) (.program (Text.ofChars name))) fs
  let fs := links.foldl (fun fs l => fs.addLink [.char '/'] l.1.runes l.2.runes) fs
  let fs := devices.foldl (fun (fs : FileSystem) d =>
    fs.set (placeIn "/dev" d.1.toList) (.device d.2)) fs
  (List.range descriptorCount).foldl (fun (fs : FileSystem) n =>
    fs.set (placeIn "/proc/self/fd" (Chars.ofNat n)) (.device (.opened n))) fs

def headerSize : Nat := 256

def isBlank (c : Char) : Bool := c = ' ' || c = '\t'

def isTerminator (c : Char) : Bool := isBlank c || c = '\x00'

/-- The line that names an interpreter, if a file begins with it. A line that does not end in the
part of the file that is looked at must at least hold the whole path. -/
def interpreterLine (content : Bytes) : Option Chars :=
  let header := Octets.ofBytes (content.take headerSize)
  match header ++ List.replicate (headerSize - header.length) '\x00' with
  | '#' :: '!' :: rest =>
    if rest.contains '\n' then some (rest.takeWhile (· ≠ '\n'))
    else
      let line := rest.dropLast
      if (line.dropWhile isBlank).any isTerminator then some line else none
  | _ => none

def interpreterOf (content : Bytes) : Option (Chars × Option Chars) :=
  match interpreterLine content with
  | none => none
  | some line =>
    let line := ((line.reverse.dropWhile isBlank).reverse).dropWhile isBlank
    let path := line.takeWhile (!isTerminator ·)
    let behind := line.drop path.length
    let arg := (behind.dropWhile isBlank).takeWhile (· ≠ '\x00')
    if path.isEmpty then none else some (path, if arg.isEmpty then none else some arg)

def maxImages : Nat := 6

/-- The utility that a path given as octets comes to, with the arguments for it: an interpreter is
given its own argument, the path of the script, and the arguments of the script. No file is run that
somebody has open for writing. -/
def image (fs : FileSystem) (cwd : Text) (isWritten : Place → Bool) :
    (images : Nat) → (path : Chars) → (argv : List Chars) → Except SystemError (Chars × List Chars)
  | 0, _, _ => .error .linkLoop
  | images + 1, path, argv =>
    match fs.locate cwd (Octets.toText path) with
    | .error e => .error e
    | .ok place =>
      match fs.get? place with
      | none => .error .notFound
      | some (.program name) => .ok (Text.chars name, argv)
      | some (.file content mode) =>
        if !mode.isExecutable then .error .accessDenied
        else if isWritten place then .error .textBusy
        else
          match interpreterOf (content.slice 0 headerSize) with
          | none => .error .notRunnable
          | some (interpreter, arg) =>
            image fs cwd isWritten images interpreter
              (interpreter :: arg.toList ++ path :: argv.drop 1)
      | some _ => .error .accessDenied

def maxArgumentBytes : Nat := 131071

def maxTotalBytes : Nat := 2097152

def fits (argv : List Chars) (env : List (Chars × Chars)) : Bool :=
  let sizes := argv.map List.length ++ env.map fun v => v.1.length + 1 + v.2.length
  sizes.all (· ≤ maxArgumentBytes) && sizes.foldl (fun n size => n + size + 9) 0 ≤ maxTotalBytes

def maxDepth : Nat := 1000000

def host : (depth : Nat) → Script.Host
  | 0 => fun _ _ _ => .error .argumentsTooLong
  | depth + 1 => fun path call m =>
    if !fits call.argv call.env then .error .argumentsTooLong
    else
      match image m.files call.cwd m.isWritten maxImages path call.argv with
      | .error e => .error e
      | .ok (name, argv) =>
        match utility? (host depth) name with
        | none => .error .notRunnable
        | some u => .ok (u { call with argv })

/-- A program that has been started: what it is, and how it was called. -/
structure Started where
  utility : Utility
  call : Call

def outermost : Nat := 4240

def startRounds : Nat := 50

def graceRounds : Nat := 100000

def openFileOf (fs : FileSystem) (handle : Handle) : OpenFile :=
  match fs.get? handle.place with
  | some (.device kind) => .device kind
  | _ => .file handle false true

/-- The open files that the outputs of a program are joined to. Outputs of the same kind that are
joined to the same handle share an open file. -/
def handles (ends : Ends) : List (Output × Handle) :=
  [Output.stdout, .stderr].filterMap fun o =>
    match ends.outlet o with
    | .file handle => some (o, handle)
    | _ => none

/-- Joins an output of a program; `handles` are the files that are open from number one on. The
number of the open file comes out, and before it that of the end of a pipe from which the next
program reads. -/
def joinOutput (handles : List (Output × Handle)) (stage : Nat) (o : Output) (end_ : OutputEnd) (m : Machine) :
    Nat × Nat × Machine :=
  match end_ with
  | .file handle => (0, 1 + handles.idxOf (o, handle), m)
  | .pipe => m.addPipe {}
  | .drained => (0, m.add (.outgoing stage o))

/-- Makes processes of programs that are joined by pipes. The first of them is stage `stage` and
begins after so many rounds, and open file `before` leads to what the one before it writes. -/
def join (handles : List (Output × Handle)) : (stage before : Nat) → List (Started × Ends) → Machine →
    List Active × Machine
  | _, _, [], m => ([], m)
  | stage, before, (p, ends) :: rest, m =>
    let reading := if ends.input = .fed then 0 else before
    let (next, writing, m) := joinOutput handles stage .stdout ends.output m
    let (_, errors, m) := joinOutput handles stage .stderr ends.errors m
    let number := outermost + 1 + stage
    let call := { p.call with
      descriptors := [(0, reading), (1, writing), (2, errors)]
      process := number, parent := outermost }
    let m := { m with processes := m.processes ++ [call.standing] }
    let (more, m) := join handles (stage + 1) next rest m
    ({ number, rounds := stage * startRounds, next := p.utility call } :: more, m)

def joinedPieces : List Piece → List Piece
  | [] => []
  | piece :: rest =>
    match joinedPieces rest with
    | next :: more =>
      if piece.stage = next.stage ∧ piece.output = next.output then
        { next with data := piece.data ++ next.data } :: more
      else piece :: next :: more
    | [] => [piece]

/-- Runs programs side by side: until the last has ended and nobody is left who could write for the
outermost program, and then for a while. -/
def runAll (held : List Place) (all : List (Started × Ends)) (input : Bytes) (fs : FileSystem) :
    Effect :=
  let last := outermost + all.length
  let handles := (all.flatMap fun p => handles p.2).eraseDups
  let writing := held.map fun place => OpenFile.file { place } false true
  let opened := OpenFile.reading 0 :: handles.map (openFileOf fs ·.2)
  let m : Machine :=
    { files := fs
      pipes := #[.ofBytes input]
      opened := (opened ++ writing).toArray
      processes :=
        [{ number := outermost, parent := 0
           holds := (List.range writing.length).map (· + opened.length) }]
      nextProcess := last + 1 }
  let (active, m) := join handles 0 0 all m
  let isUnfinished (m : Machine) : Bool :=
    (m.process? last).any (·.status.isNone) || m.isHeld fun
      | .outgoing _ _ => true
      | _ => false
  let (active, m) := Schedule.run isUnfinished Task.limit active m
  let (_, m) := Schedule.run (fun _ => true) graceRounds active m
  let statuses := (List.range all.length).map fun stage =>
    ((m.process? (outermost + 1 + stage)).bind (·.status)).getD 0
  { output := joinedPieces m.written.reverse, statuses, files := m.files }

/-- The programs of the system, for a process whose directory is `base`. -/
def programs (base : Text) : Programs where
  Process := List Place × Started
  start i fs :=
    if i.cwd = [] then .error .notFound
    else
      match fs.locate base (Path.join base i.cwd) with
      | .error e => .error e
      | .ok place =>
        match fs.get? place with
        | none => .error .notFound
        | some (.directory _) =>
          let cwd := .char '/' :: Place.text place
          let argv := i.argv.map Octets.ofText
          let env := i.env.map fun v => (Octets.ofText v.1, Octets.ofText v.2)
          if !fits argv env then .error .argumentsTooLong
          else
            match image fs cwd i.held.contains maxImages (Octets.ofText i.executable) argv with
            | .error e => .error e
            | .ok (name, argv) =>
              match utility? (host maxDepth) name with
              | none => .error .notRunnable
              | some utility => .ok (i.held, { utility, call := { argv, cwd, env } })
        | some _ => .error .notDirectory
  run all input fs :=
    runAll ((all.head?.map (·.1.1)).getD []) (all.map fun p => (p.1.2, p.2)) input fs

end PipelineShell.Userland
