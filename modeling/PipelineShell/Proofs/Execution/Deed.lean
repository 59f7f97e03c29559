import PipelineShell.Execution.Stage

/-!
# What a stage does

The effects of a stage on what it can reach, without channels and pumps. A read gets any bytes off
the front of the input, and none only at its end.
-/

namespace PipelineShell

/-! ### Writing to an outlet -/

/-- What an output of the session has taken so far. -/
def State.output (s : State) : Output → Bytes
  | .stdout => s.session.stdout
  | .stderr => s.session.stderr

theorem State.output_emit (s : State) (o o' : Output) (data : Bytes) :
    (s.emit o data).output o' = s.output o' ++ if o = o' then data else [] := by
  cases o <;> cases o' <;> simp [State.emit, State.output]

theorem State.stdin_emit (s : State) (o : Output) (data : Bytes) :
    (s.emit o data).session.stdin = s.session.stdin := by
  cases o <;> rfl

namespace Channel

theorem write?_of_open {c : Channel} (h : c.closed = false) (data : Bytes) :
    ∃ d, c.write? data = some d ∧ d.closed = false := by
  unfold write?
  rw [h]
  by_cases hd : data.isEmpty = true
  · exact ⟨c, by simp [hd], h⟩
  · exact ⟨{ c with chunks := c.chunks ++ [data] }, by simp [hd, h], h⟩

theorem closed_of_write? {c d : Channel} {data : Bytes} (h : c.write? data = some d) :
    c.closed = false := by
  cases hc : c.closed with
  | false => rfl
  | true => simp [write?, hc] at h

end Channel

namespace Outlet

/-- Whether an outlet has not come to its end, as a channel does once it is closed. -/
def isOpen : Outlet → Bool
  | .channel c => !c.closed
  | .session _ | .file _ => true

/-- What may become of bytes that are put to an outlet: it takes them, or it is a device without
room, which keeps something to be lost later or does not. -/
inductive Put (data : Bytes) (s : State) : Outlet → Outlet → State → Prop
  | taken {sink sink' : Outlet} {s' : State} (write : sink.write data s = .ok (sink', s')) :
      Put data s sink sink' s'
  | lost {h : Handle} (full : h.full = true) (lost : Bool) :
      Put data s (.file h) (.file { h with lost }) s

inductive Wrote (data : Bytes) (s : State) : Outlet → Outlet → State → Prop
  | session (o : Output) : Wrote data s (.session o) (.session o) (s.emit o data)
  | file {h h' : Handle} (full : h'.full = h.full) (files : FileSystem) :
      Wrote data s (.file h) (.file h') { s with files }
  | channel {c c' : Channel} (closed : c'.closed = false)
      (content : c'.content = c.content ++ data) : Wrote data s (.channel c) (.channel c') s

theorem full_write (h : Handle) (data : Bytes) (fs : FileSystem) :
    (h.write data fs).1.full = h.full := by
  unfold Handle.write
  split
  · rfl
  · split
    · split <;> rfl
    · rfl

theorem write_of_accepts {sink : Outlet} (h : sink.accepts = true) (data : Bytes) (s : State) :
    ∃ sink' s', sink.write data s = .ok (sink', s') := by
  cases sink with
  | session o => exact ⟨_, _, rfl⟩
  | file handle =>
    have hfull : handle.full = false := by simpa [accepts] using h
    exact ⟨.file (handle.write data s.files).1, { s with files := (handle.write data s.files).2 },
      by simp [write, Handle.refuses, hfull]⟩
  | channel c =>
    have hc : c.closed = false := by simpa [accepts] using h
    obtain ⟨d, hd, -⟩ := c.write?_of_open hc data
    exact ⟨.channel d, s, by simp [write, hd]⟩

theorem isOpen_of_accepts {sink : Outlet} (h : sink.accepts = true) : sink.isOpen = true := by
  cases sink with
  | session o => rfl
  | file handle => rfl
  | channel c => exact h

theorem full_of_not_accepts {sink : Outlet} (hopen : sink.isOpen = true)
    (h : ¬sink.accepts = true) : ∃ handle, sink = .file handle ∧ handle.full = true := by
  cases sink with
  | session o => exact absurd rfl h
  | file handle => exact ⟨handle, rfl, by simpa [accepts] using h⟩
  | channel c => exact absurd hopen h

/-- What is refused is lost on a device without room, and has come to a closed channel otherwise. -/
theorem refused_of_write {sink sink' : Outlet} {data : Bytes} {s : State} {failure : Failure}
    (h : sink.write data s = .error (failure, sink')) :
    (sink.isOpen = true ∧ Put data s sink sink' s) ∨ (sink.isOpen = false ∧ sink' = sink) := by
  cases sink with
  | session o => cases h
  | file handle =>
    simp only [write] at h
    split at h
    · next hrefuses =>
      cases h
      exact .inl ⟨rfl, .lost (Bool.and_eq_true_iff.1 hrefuses).1 _⟩
    · cases h
  | channel c =>
    simp only [write] at h
    cases hd : c.write? data with
    | none =>
      simp only [hd, Except.error.injEq, Prod.mk.injEq] at h
      refine .inr ⟨?_, h.2.symm⟩
      cases hc : c.closed with
      | true => simp [isOpen, hc]
      | false =>
        obtain ⟨d, hd', -⟩ := c.write?_of_open hc data
        rw [hd] at hd'
        cases hd'
    | some d => simp [hd] at h

theorem wrote_of_write {sink sink' : Outlet} {data : Bytes} {s s' : State}
    (h : sink.write data s = .ok (sink', s')) : Wrote data s sink sink' s' := by
  cases sink with
  | session o =>
    cases h
    exact .session o
  | file handle =>
    simp only [write] at h
    split at h
    · cases h
    · cases h
      exact .file (full_write handle data s.files) _
  | channel c =>
    simp only [write] at h
    cases hd : c.write? data with
    | none => simp [hd] at h
    | some d =>
      simp only [hd, Except.ok.injEq, Prod.mk.injEq] at h
      obtain ⟨rfl, rfl⟩ := h
      obtain ⟨d', hd', hopen⟩ := c.write?_of_open (Channel.closed_of_write? hd) data
      rw [hd, Option.some.injEq] at hd'
      rw [← hd'] at hopen
      exact .channel hopen (Channel.content_write hd)

theorem Put.wrote {sink sink' : Outlet} {data : Bytes} {s s' : State}
    (h : Put data s sink sink' s') : Wrote data s sink sink' s' := by
  cases h with
  | taken hw => exact wrote_of_write hw
  | @lost h full lost =>
    have hsame : ({ h with lost } : Handle).full = h.full := rfl
    exact .file hsame s.files

variable {data : Bytes} {s s' : State} {sink sink' : Outlet}

theorem Wrote.isOpen (h : Wrote data s sink sink' s') : sink'.isOpen = true := by
  cases h with
  | session o => rfl
  | file full files => rfl
  | channel hc _ => simp [Outlet.isOpen, hc]

theorem Wrote.accepts (h : Wrote data s sink sink' s') (hsink : sink.isOpen = true) :
    sink'.accepts = sink.accepts := by
  cases h with
  | session o => rfl
  | file full files => simp [Outlet.accepts, full]
  | @channel c c' hc _ =>
    have hopen : c.closed = false := by simpa [Outlet.isOpen] using hsink
    simp [Outlet.accepts, hc, hopen]

theorem Wrote.stdin (h : Wrote data s sink sink' s') : s'.session.stdin = s.session.stdin := by
  cases h with
  | session o => exact s.stdin_emit o data
  | file full files => rfl
  | channel _ _ => rfl

theorem Wrote.session_iff (h : Wrote data s sink sink' s') (o : Output) :
    sink' = .session o ↔ sink = .session o := by
  cases h with
  | session o' => rfl
  | file full files => simp
  | channel _ _ => simp

theorem Wrote.output (h : Wrote data s sink sink' s') (o : Output) :
    s'.output o = s.output o ++ if sink = .session o then data else [] := by
  cases h with
  | session o' => simp [State.output_emit]
  | file full files => cases o <;> simp [State.output]
  | channel _ _ => simp

end Outlet

/-! ### Deeds -/

/-- One thing that a running stage does. -/
inductive Deed
  | read (size : Option Nat) (data : Bytes)
  | write (data : Bytes)
  | complain (data : Bytes)
  | look (view : View)
  | enter (directory : Text)
  | remember (entries : List Text)
  /-- Leaves the files in another state, as a program may. -/
  | leave (files : FileSystem)

namespace Deed

def received : Deed → Bytes
  | .read _ data => data
  | _ => []

def written : Deed → Bytes
  | .write data => data
  | _ => []

def complained : Deed → Bytes
  | .complain data => data
  | _ => []

def isOutput : Deed → Bool
  | .write _ | .complain _ => true
  | _ => false

end Deed

/-- What a behaviour may do up to its end, and the status with which it ends. It has no say in
what it is answered. -/
inductive Behaviour.Does : Behaviour → List Deed → Int → Prop
  | done (status : Int) : Does (.done status) [] status
  | read {size : Option Nat} {next : Bytes → Behaviour} {ds : List Deed} {status : Int}
      (data : Bytes) (rest : Does (next data) ds status) :
      Does (.read size next) (.read size data :: ds) status
  | write {data : Bytes} {next : Behaviour} {ds : List Deed} {status : Int}
      (rest : Does next ds status) : Does (.write data next) (.write data :: ds) status
  | complain {data : Bytes} {next : Behaviour} {ds : List Deed} {status : Int}
      (rest : Does next ds status) : Does (.complain data next) (.complain data :: ds) status
  | look {next : View → Behaviour} {ds : List Deed} {status : Int}
      (view : View) (rest : Does (next view) ds status) :
      Does (.look next) (.look view :: ds) status
  | enter {directory : Text} {next : Behaviour} {ds : List Deed} {status : Int}
      (rest : Does next ds status) : Does (.enter directory next) (.enter directory :: ds) status
  | remember {entries : List Text} {next : Behaviour} {ds : List Deed} {status : Int}
      (rest : Does next ds status) : Does (.remember entries next) (.remember entries :: ds) status

/-! ### Scenes -/

/-- What a stage reads: the input of the session, or certain bytes and then the end. -/
inductive Feed
  | session
  | bytes (left : Bytes)

/-- A right answer to a request for at most `size` bytes, or for all, when `left` is still to be
read and `rest` is so afterwards. -/
structure Answers (size : Option Nat) (data left rest : Bytes) : Prop where
  taken : data ++ rest = left
  bounded : ∀ n, size = some n → data.length ≤ n
  whole : size = none → rest = []
  atEnd : size ≠ some 0 → data = [] → left = []

/-- A stage at work: what it reads, where its output goes, unless it is handed on to the next
stage, where its error output goes, and the state it works on. -/
structure Scene where
  feed : Feed
  sink : Option Outlet
  errors : Outlet
  state : State

namespace Scene

def input (a : Scene) : Bytes :=
  match a.feed with
  | .session => a.state.session.stdin
  | .bytes left => left

inductive Step (base : Text) (builtins : List Text) : Deed → Scene → Scene → Prop
  | readSession {size : Option Nat} {data rest : Bytes} {sink : Option Outlet} {errors : Outlet}
      {s : State} (answer : Answers size data s.session.stdin rest) :
      Step base builtins (.read size data) ⟨.session, sink, errors, s⟩
        ⟨.session, sink, errors, { s with session := { s.session with stdin := rest } }⟩
  | readBytes {size : Option Nat} {data left rest : Bytes} {sink : Option Outlet} {errors : Outlet}
      {s : State} (answer : Answers size data left rest) :
      Step base builtins (.read size data) ⟨.bytes left, sink, errors, s⟩
        ⟨.bytes rest, sink, errors, s⟩
  | handOn {data : Bytes} {feed : Feed} {errors : Outlet} {s : State} :
      Step base builtins (.write data) ⟨feed, none, errors, s⟩ ⟨feed, none, errors, s⟩
  | write {data : Bytes} {feed : Feed} {sink sink' errors : Outlet} {s s' : State}
      (put : Outlet.Put data s sink sink' s') :
      Step base builtins (.write data) ⟨feed, some sink, errors, s⟩ ⟨feed, some sink', errors, s'⟩
  | complain {data : Bytes} {feed : Feed} {sink : Option Outlet} {errors errors' : Outlet}
      {s s' : State} (put : Outlet.Put data s errors errors' s') :
      Step base builtins (.complain data) ⟨feed, sink, errors, s⟩ ⟨feed, sink, errors', s'⟩
  | look {feed : Feed} {sink : Option Outlet} {errors : Outlet} {s : State} :
      Step base builtins (.look ⟨s.session, s.files, base, builtins⟩) ⟨feed, sink, errors, s⟩
        ⟨feed, sink, errors, s⟩
  | enter {directory : Text} {feed : Feed} {sink : Option Outlet} {errors : Outlet} {s : State} :
      Step base builtins (.enter directory) ⟨feed, sink, errors, s⟩
        ⟨feed, sink, errors, { s with session := s.session.enter directory }⟩
  | remember {entries : List Text} {feed : Feed} {sink : Option Outlet} {errors : Outlet}
      {s : State} :
      Step base builtins (.remember entries) ⟨feed, sink, errors, s⟩
        ⟨feed, sink, errors, { s with session := s.session.remember entries }⟩
  | leave {files : FileSystem} {feed : Feed} {sink : Option Outlet} {errors : Outlet} {s : State} :
      Step base builtins (.leave files) ⟨feed, sink, errors, s⟩
        ⟨feed, sink, errors, { s with files }⟩

/-- How all that is done, one thing after another, changes the scene. -/
inductive Steps (base : Text) (builtins : List Text) : List Deed → Scene → Scene → Prop
  | nil (a : Scene) : Steps base builtins [] a a
  | cons {d : Deed} {ds : List Deed} {a b c : Scene} (step : Step base builtins d a b)
      (rest : Steps base builtins ds b c) : Steps base builtins (d :: ds) a c

variable {base : Text} {builtins : List Text} {d : Deed} {ds : List Deed} {a b : Scene}

theorem Steps.append {es : List Deed} {c : Scene} (h : Steps base builtins ds a b)
    (k : Steps base builtins es b c) : Steps base builtins (ds ++ es) a c := by
  induction h with
  | nil a => exact k
  | cons step _ ih => exact .cons step (ih k)

/-! ### What all that is done comes to -/

theorem Step.errors_isOpen (h : Step base builtins d a b) (ha : a.errors.isOpen = true) :
    b.errors.isOpen = true := by
  cases h with
  | complain hw => exact hw.wrote.isOpen
  | _ => exact ha

theorem Steps.errors_isOpen (h : Steps base builtins ds a b) (ha : a.errors.isOpen = true) :
    b.errors.isOpen = true := by
  induction h with
  | nil a => exact ha
  | cons step _ ih => exact ih (step.errors_isOpen ha)

theorem Step.feed_session_iff (h : Step base builtins d a b) :
    b.feed = .session ↔ a.feed = .session := by
  cases h <;> simp

theorem Step.input (h : Step base builtins d a b) : d.received ++ b.input = a.input := by
  cases h with
  | readSession answer => exact answer.taken
  | readBytes answer => exact answer.taken
  | @handOn data feed errors s => rfl
  | @write data feed sink sink' errors s s' hw =>
    cases feed with
    | session => exact hw.wrote.stdin
    | bytes left => rfl
  | @complain data feed sink errors errors' s s' hw =>
    cases feed with
    | session => exact hw.wrote.stdin
    | bytes left => rfl
  | look => rfl
  | enter => rfl
  | remember => rfl
  | leave => rfl

/-- What is read comes off the front of the input, in order, and nothing else changes the input. -/
theorem Steps.input (h : Steps base builtins ds a b) :
    ds.flatMap Deed.received ++ b.input = a.input := by
  induction h with
  | nil a => rfl
  | cons step _ ih => rw [List.flatMap_cons, List.append_assoc, ih, step.input]

theorem Steps.feed_session_iff (h : Steps base builtins ds a b) :
    b.feed = .session ↔ a.feed = .session := by
  induction h with
  | nil a => rfl
  | cons step _ ih => rw [ih, step.feed_session_iff]

theorem Step.stdin (h : Step base builtins d a b) (hf : a.feed ≠ .session) :
    b.state.session.stdin = a.state.session.stdin := by
  cases h with
  | readSession answer => exact absurd rfl hf
  | write hw => exact hw.wrote.stdin
  | complain hw => exact hw.wrote.stdin
  | _ => rfl

theorem Steps.stdin (h : Steps base builtins ds a b) (hf : a.feed ≠ .session) :
    b.state.session.stdin = a.state.session.stdin := by
  induction h with
  | nil a => rfl
  | cons step _ ih => rw [ih (mt step.feed_session_iff.1 hf), step.stdin hf]

theorem Step.sink_session_iff (h : Step base builtins d a b) (o : Output) :
    b.sink = some (.session o) ↔ a.sink = some (.session o) := by
  cases h with
  | write hw => simp only [Option.some.injEq, hw.wrote.session_iff o]
  | _ => rfl

theorem Step.errors_session_iff (h : Step base builtins d a b) (o : Output) :
    b.errors = .session o ↔ a.errors = .session o := by
  cases h with
  | complain hw => exact hw.wrote.session_iff o
  | _ => rfl

theorem Steps.errors_session_iff (h : Steps base builtins ds a b) (o : Output) :
    b.errors = .session o ↔ a.errors = .session o := by
  induction h with
  | nil a => rfl
  | cons step _ ih => rw [ih, step.errors_session_iff o]

def emitted (a : Scene) (o : Output) : Deed → Bytes
  | .write data => if a.sink = some (.session o) then data else []
  | .complain data => if a.errors = .session o then data else []
  | _ => []

theorem Step.emitted_eq (h : Step base builtins d a b) (o : Output) :
    b.emitted o = a.emitted o := by
  funext e
  cases e <;> simp only [emitted, h.sink_session_iff o, h.errors_session_iff o]

theorem flatMap_emitted_written {o : Output} (h : a.errors ≠ .session o) :
    ds.flatMap (a.emitted o) =
      if a.sink = some (.session o) then ds.flatMap Deed.written else [] := by
  induction ds with
  | nil => simp
  | cons d ds ih =>
    rw [List.flatMap_cons, List.flatMap_cons, ih]
    cases d <;> by_cases hs : a.sink = some (.session o) <;> simp [emitted, Deed.written, hs, h]

theorem flatMap_emitted_complained {o : Output} (h : a.sink ≠ some (.session o)) :
    ds.flatMap (a.emitted o) =
      if a.errors = .session o then ds.flatMap Deed.complained else [] := by
  induction ds with
  | nil => simp
  | cons d ds ih =>
    rw [List.flatMap_cons, List.flatMap_cons, ih]
    cases d <;> by_cases hs : a.errors = .session o <;> simp [emitted, Deed.complained, hs, h]

theorem Step.output (h : Step base builtins d a b) (o : Output) :
    b.state.output o = a.state.output o ++ a.emitted o d := by
  cases h with
  | write hw =>
    rw [hw.wrote.output o]
    simp only [emitted, Option.some.injEq]
  | complain hw => exact hw.wrote.output o
  | _ => cases o <;> simp [emitted, State.output, Session.enter, Session.remember]

theorem Steps.output (h : Steps base builtins ds a b) (o : Output) :
    b.state.output o = a.state.output o ++ ds.flatMap (a.emitted o) := by
  induction h with
  | nil a => simp
  | cons step _ ih =>
    rw [ih, step.output o, step.emitted_eq o, List.flatMap_cons, List.append_assoc]

theorem Step.gather (h : Step base builtins d a b) {c : Channel}
    (ha : a.sink = some (.channel c)) :
    ∃ c' : Channel, b.sink = some (.channel c') ∧ c'.content = c.content ++ d.written ∧
      Step base builtins d { a with sink := none } { b with sink := none } := by
  cases h with
  | handOn => cases ha
  | write hw =>
    rw [Option.some.injEq] at ha
    rw [ha] at hw
    cases hw.wrote with
    | @channel _ c' _ hcontent => exact ⟨c', rfl, hcontent, .handOn⟩
  | readSession answer => exact ⟨c, ha, by simp [Deed.written], .readSession answer⟩
  | readBytes answer => exact ⟨c, ha, by simp [Deed.written], .readBytes answer⟩
  | complain hw => exact ⟨c, ha, by simp [Deed.written], .complain hw⟩
  | look => exact ⟨c, ha, by simp [Deed.written], .look⟩
  | enter => exact ⟨c, ha, by simp [Deed.written], .enter⟩
  | remember => exact ⟨c, ha, by simp [Deed.written], .remember⟩
  | leave => exact ⟨c, ha, by simp [Deed.written], .leave⟩

theorem Steps.gather (h : Steps base builtins ds a b) {c : Channel}
    (ha : a.sink = some (.channel c)) :
    ∃ c' : Channel, b.sink = some (.channel c') ∧
      c'.content = c.content ++ ds.flatMap Deed.written ∧
      Steps base builtins ds { a with sink := none } { b with sink := none } := by
  induction h generalizing c with
  | nil a => exact ⟨c, ha, by simp, .nil _⟩
  | cons step _ ih =>
    obtain ⟨c₁, hb, hc₁, hstep⟩ := step.gather ha
    obtain ⟨c₂, hc, hc₂, hsteps⟩ := ih hb
    refine ⟨c₂, hc, ?_, .cons hstep hsteps⟩
    rw [hc₂, hc₁, List.flatMap_cons, List.append_assoc]

end Scene
end PipelineShell
