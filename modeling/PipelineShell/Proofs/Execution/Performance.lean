import PipelineShell.Execution.Network

/-!
# Programs as functions

Programs that read their whole input, as functions of it to output, error output and status, and
what is assumed of the system that runs several of them side by side.
-/

namespace PipelineShell

/-- What a program makes of its whole input. -/
structure Performance where
  stdout : Bytes
  stderr : Bytes
  status : Int
  deriving DecidableEq, Repr

def Performance.written (p : Performance) : Output → Bytes
  | .stdout => p.stdout
  | .stderr => p.stderr

/-- What programs make of some bytes, each of the output of the one before it. -/
def performances {α : Type} (perform : α → Bytes → Performance) : List α → Bytes → List Performance
  | [], _ => []
  | process :: rest, input =>
    let p := perform process input
    p :: performances perform rest p.stdout

/-! ### One program -/

/-- What a program has done so far. -/
structure Record where
  taken : Bytes := []
  /-- Whether it has read the end of its input. -/
  ended : Bool := false
  written : Output → Bytes := fun _ => []

namespace Record

def read (r : Record) (size : Nat) (data : Bytes) : Record :=
  { r with
    taken := r.taken ++ data
    ended := r.ended || Conduit.isEnd size data }

def write (r : Record) (o : Output) (data : Bytes) : Record :=
  { r with written := fun p => r.written p ++ if p = o then data else [] }

end Record

namespace Child

/-- What a program may have done when it has come to this point, if all its ends were open. It may
have got less at once than it asked for, and may have written less. -/
inductive Past (child : Child) : Record → child.Memory → Prop
  | start : Past child {} child.start
  | read {r : Record} {memory : child.Memory} {size : Nat} {next : Option Bytes → child.Memory}
      {data : Bytes} (before : Past child r memory) (wish : child.wish memory = .read size next)
      (atEnd : r.ended = true → data = []) : Past child (r.read size data) (next (some data))
  | write {r : Record} {memory : child.Memory} {o : Output} {data : Bytes}
      {next : Option Nat → child.Memory} {count : Nat} (before : Past child r memory)
      (wish : child.wish memory = .write o data next) (count_le : count ≤ data.length) :
      Past child (r.write o (data.take count)) (next (some count))

/-- The program is this function: it exits when it has read the end of its input, has then written
what the function says, and has closed none of its ends before. -/
structure Computes (child : Child) (f : Bytes → Performance) : Prop where
  exits : ∀ r memory status, child.Past r memory → child.wish memory = .exit status →
    r.ended = true ∧ (f r.taken).written = r.written ∧ (f r.taken).status = status
  keepsInput : ∀ r memory next, child.Past r memory → child.wish memory ≠ .closeInput next
  keepsOutput : ∀ r memory o next, child.Past r memory → child.wish memory ≠ .closeOutput o next

end Child

/-! ### Programs side by side -/

/-- The files are the same, except for some that are held open. -/
def FileSystem.Agrees (held : List Place) (fs fs' : FileSystem) : Prop :=
  ∀ place, place ∉ held → fs'.get? place = fs.get? place

/-- The ends of programs that `_run_shell_group` starts one after another: the first is fed, and
each other one reads what the one before it writes. -/
structure Ends.InLine (ends : List Ends) : Prop where
  input : ∀ i e, ends[i]? = some e → e.input = if i = 0 then .fed else .pipe
  output : ∀ i e, ends[i]? = some e → i + 1 < ends.length → e.output = .pipe
  errors : ∀ e ∈ ends, e.errors ≠ .pipe

namespace Piece

/-- The bytes that one of the programs has written to an output. -/
def bytesOf (stage : Nat) (o : Output) (pieces : List Piece) : Bytes :=
  Piece.bytes o (pieces.filter (·.stage = stage))

/-- What programs with these ends have written the piece to. -/
def end? (ends : List Ends) (piece : Piece) : Option OutputEnd :=
  Ends.outlet? ends piece.stage piece.output

/-- The bytes that were written to this end of one of the outputs. -/
def bytesTo (ends : List Ends) (o : Output) (target : OutputEnd) (pieces : List Piece) : Bytes :=
  Piece.bytes o (pieces.filter (·.end? ends = some target))

/-- The open files of programs, where one of them has been written to. -/
def moved (now : Output → Handle → Handle) (o : Output) (h h' : Handle) :
    Output → Handle → Handle :=
  fun o' k => if o' = o ∧ k = h then h' else now o' k

/-- The files after programs with these ends have written to those ends that are open files. What
several programs have got as the same output is one open file, and each write moves it for all of
them; `now` says how it stands. -/
def store (ends : List Ends) (now : Output → Handle → Handle) (fs : FileSystem) :
    List Piece → FileSystem
  | [] => fs
  | piece :: rest =>
    match piece.end? ends with
    | some (.file h) =>
      let (h', fs) := (now piece.output h).write piece.data fs
      store ends (moved now piece.output h h') fs rest
    | _ => store ends now fs rest

end Piece

namespace Programs

/-- The system has run programs side by side, each of which is a function: they and their pumps have
taken turns, in some order and with pipes of some capacity, until all had come to an end. What the
pumps have brought comes out, and the held files change by what was written to them. -/
structure SideBySide (programs : Programs) (perform : programs.Process → Bytes → Performance)
    (held : List Place) (joined : List (programs.Process × Ends)) (input : Bytes)
    (files : FileSystem) (pieces : List Piece) : Prop where
  ran : ∃ (child : Nat → Child) (net : Network (joined.map (·.2)) child),
    (∀ i process e, joined[i]? = some (process, e) → (child i).Computes (perform process)) ∧
    (∃ feed pipes moves, (Network.start _ child input feed pipes).run? moves = some net) ∧
    net.Done ∧ net.pieces = pieces ∧
    ∀ i < joined.length, net.activity i = .exited ((programs.run joined input files).status i)
  emptied : (programs.run joined input files).output =
    pieces.filter (·.end? (joined.map (·.2)) = some .drained)
  stored : ∀ place ∈ held, (programs.run joined input files).files.get? place =
    (Piece.store (joined.map (·.2)) (fun _ h => h) files pieces).get? place

/-- The programs of a system are functions of their input: neither what they do nor whether they are
started depends on the files that are held open, and they change no file but through their ends. -/
structure ActAs (programs : Programs) (perform : programs.Process → Bytes → Performance)
    (held : List Place) (files : FileSystem) : Prop where
  launch : ∀ i fs, files.Agrees held fs → programs.launch i fs = programs.launch i files
  run : ∀ joined input fs, Ends.InLine (joined.map (·.2)) → files.Agrees held fs →
    ∃ pieces, ∀ places, programs.SideBySide perform places joined input fs pieces

end Programs

/-! ### Pieces -/

namespace Piece

variable {ends : List Ends} {pieces : List Piece} {o : Output} {i : Nat} {target : OutputEnd}

theorem bytes_cons (o : Output) (piece : Piece) (rest : List Piece) :
    Piece.bytes o (piece :: rest) =
      (if piece.output = o then piece.data else []) ++ Piece.bytes o rest := by
  unfold Piece.bytes
  by_cases h : piece.output = o <;> simp [h]

theorem bytesTo_cons (ends : List Ends) (o : Output) (target : OutputEnd) (piece : Piece)
    (rest : List Piece) :
    bytesTo ends o target (piece :: rest) =
      (if piece.output = o ∧ piece.end? ends = some target then piece.data else []) ++
        bytesTo ends o target rest := by
  unfold bytesTo
  by_cases h : piece.end? ends = some target
  · simp [h, bytes_cons]
  · simp [h]

theorem bytes_filter_congr {p q : Piece → Bool}
    (h : ∀ piece ∈ pieces, piece.output = o → p piece = q piece) :
    Piece.bytes o (pieces.filter p) = Piece.bytes o (pieces.filter q) := by
  unfold Piece.bytes
  rw [List.filter_filter, List.filter_filter]
  congr 1
  refine List.filter_congr fun piece hpiece => ?_
  by_cases ho : piece.output = o
  · simp [ho, h piece hpiece ho]
  · simp [ho]

theorem bytesTo_eq_bytes (h : ∀ piece ∈ pieces, piece.output = o → piece.end? ends = some target) :
    bytesTo ends o target pieces = Piece.bytes o pieces := by
  have hall : pieces.filter (fun _ => true) = pieces := List.filter_eq_self.2 fun _ _ => rfl
  rw [← congrArg (Piece.bytes o) hall]
  exact bytes_filter_congr fun piece hpiece ho => by simp [h piece hpiece ho]

theorem bytesTo_eq_bytesOf
    (h : ∀ piece ∈ pieces, piece.output = o → (piece.end? ends = some target ↔ piece.stage = i)) :
    bytesTo ends o target pieces = bytesOf i o pieces :=
  bytes_filter_congr fun piece hpiece ho => by simp [h piece hpiece ho]

theorem bytesTo_eq_nil
    (h : ∀ piece ∈ pieces, piece.output = o → piece.end? ends ≠ some target) :
    bytesTo ends o target pieces = [] := by
  have hnone : Piece.bytes o (pieces.filter fun _ => false) = [] := by simp [Piece.bytes]
  rw [← hnone]
  exact bytes_filter_congr fun piece hpiece ho => by simp [h piece hpiece ho]

theorem store_of_no_file (hfile : ∀ e ∈ ends, ∀ o h, e.outlet o ≠ .file h)
    (now : Output → Handle → Handle) (fs : FileSystem) (pieces : List Piece) :
    store ends now fs pieces = fs := by
  induction pieces with
  | nil => rfl
  | cons piece rest ih =>
    rw [store]
    split
    · next h hend =>
      obtain ⟨e, he, hout⟩ := Option.map_eq_some_iff.1 hend
      exact absurd hout (hfile e (List.mem_of_getElem? he) piece.output h)
    · exact ih

end Piece

/-! ### A chain of programs -/

/-- All pipes between the programs are read: they have all been started. -/
structure Ends.Chained (ends : List Ends) : Prop extends InLine ends where
  last : ∀ i e, ends[i]? = some e → e.output = .pipe → i + 1 < ends.length

section Chain

variable {α : Type} {perform : α → Bytes → Performance} {processes : List α} {input : Bytes}
  {p q : Performance} {i : Nat}

theorem length_performances (perform : α → Bytes → Performance) (processes : List α)
    (input : Bytes) : (performances perform processes input).length = processes.length := by
  induction processes generalizing input with
  | nil => rfl
  | cons process rest ih => rw [performances, List.length_cons, ih, List.length_cons]

theorem performances_zero (h : (performances perform processes input)[0]? = some p) :
    ∃ process, processes[0]? = some process ∧ p = perform process input := by
  cases processes with
  | nil => cases h
  | cons process rest => exact ⟨process, rfl, (Option.some.inj h).symm⟩

theorem performances_succ (h : (performances perform processes input)[i + 1]? = some p) :
    ∃ process q, processes[i + 1]? = some process ∧
      (performances perform processes input)[i]? = some q ∧ p = perform process q.stdout := by
  induction processes generalizing input i with
  | nil => cases h
  | cons first rest ih =>
    cases i with
    | zero =>
      have hbehind : (performances perform rest (perform first input).stdout)[0]? = some p := h
      obtain ⟨process, hprocess, hp⟩ := performances_zero hbehind
      exact ⟨process, perform first input, hprocess, rfl, hp⟩
    | succ i =>
      have hbehind : (performances perform rest (perform first input).stdout)[i + 1]? = some p := h
      obtain ⟨process, q, hprocess, hq, hp⟩ := ih hbehind
      exact ⟨process, q, hprocess, hq, hp⟩

end Chain

end PipelineShell
