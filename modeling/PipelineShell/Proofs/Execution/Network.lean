import PipelineShell.Proofs.Execution.Performance
import PipelineShell.Proofs.Stream.Joint
import PipelineShell.Proofs.Stream.Pump

/-!
# What a network computes

Programs that are functions, joined as by `_run_shell_group`, compute the composition of these
functions in every order of turns and with pipes of any capacity.
-/

namespace PipelineShell

namespace Piece

variable {i stage : Nat} {o p : Output} {pieces rest : List Piece}

theorem bytesOf_append (i : Nat) (o : Output) (pieces rest : List Piece) :
    bytesOf i o (pieces ++ rest) = bytesOf i o pieces ++ bytesOf i o rest := by
  simp [bytesOf, Piece.bytes]

theorem bytesOf_chunks (i : Nat) (o : Output) (stage : Nat) (p : Output) (chunks : List Bytes) :
    bytesOf i o (chunks.map (⟨stage, p, ·⟩)) =
      if stage = i ∧ p = o then chunks.flatten else [] := by
  induction chunks with
  | nil => simp [bytesOf, Piece.bytes]
  | cons chunk rest ih =>
    have hsplit : (chunk :: rest).map (⟨stage, p, ·⟩ : Bytes → Piece) =
        [⟨stage, p, chunk⟩] ++ rest.map (⟨stage, p, ·⟩) := rfl
    rw [hsplit, bytesOf_append, ih]
    by_cases hi : stage = i <;> by_cases ho : p = o <;> simp [bytesOf, Piece.bytes, hi, ho]

end Piece

theorem Ends.exists_outlet? {ends : List Ends} {i : Nat} (hi : i < ends.length) (o : Output) :
    ∃ target, Ends.outlet? ends i o = some target :=
  ⟨_, congrArg (Option.map _) (List.getElem?_eq_getElem hi)⟩

theorem Ends.InLine.outlet?_eq_pipe {ends : List Ends} {i : Nat} (h : Ends.InLine ends)
    (hi : i + 1 < ends.length) : Ends.outlet? ends i .stdout = some .pipe := by
  have hi' : i < ends.length := Nat.lt_of_succ_lt hi
  have he := List.getElem?_eq_getElem hi'
  rw [Ends.outlet?, he, Option.map_some, Ends.outlet, h.output i _ he hi]

theorem Ends.Chained.read_of_pipe {ends : List Ends} {i : Nat} {o : Output} (h : Ends.Chained ends)
    (hpipe : Ends.outlet? ends i o = some .pipe) : o = .stdout ∧ i + 1 < ends.length := by
  obtain ⟨e, he, hout⟩ := Option.map_eq_some_iff.1 hpipe
  cases o with
  | stdout => exact ⟨rfl, h.last i e he hout⟩
  | stderr => exact absurd hout (h.errors e (List.mem_of_getElem? he))

namespace Outflow

variable {f : Outflow}

/-- What has come out of the network of what a program has written to this end. -/
def Brings (f : Outflow) (target : Option OutputEnd) (brought : Bytes) : Prop :=
  match target with
  | some .drained =>
    f.Carries brought ∧ (f.pipe.readable = false → f.pipe.writable = false)
  | some (.file _) => brought = f.written
  | _ => True

theorem Brings.shut {target : Option OutputEnd} {brought : Bytes} (h : f.Brings target brought) :
    f.shut.Brings target brought := by
  match target, h with
  | none, _ | some .pipe, _ => trivial
  | some (.file _), h => exact h
  | some .drained, h => exact ⟨h.1.shut, fun _ => rfl⟩

end Outflow

def Activity.isOver {μ : Type} : Activity μ → Bool
  | .running _ => false
  | .exited _ => true

theorem Activity.isOver_iff {μ : Type} {activity : Activity μ} :
    activity.isOver = true ↔ ∃ status, activity = .exited status := by
  cases activity <;> simp [isOver]

/-- What a program has done brings it to where it is. -/
def Child.Lives (child : Child) (r : Record) : Activity child.Memory → Prop
  | .running memory => child.Past r memory
  | .exited status => ∃ memory, child.Past r memory ∧ child.wish memory = .exit status

namespace Network

variable {ends : List Ends} {child : Nat → Child} {input : Bytes} {net net' : Network ends child}
  {i stage size amount : Nat} {o : Output} {f : Outflow}

def record (net : Network ends child) (i : Nat) : Record :=
  ⟨net.taken i, net.ended i, fun o => (net.outflow i o).written⟩

section Fields

variable {activity : Activity (child stage).Memory} {intake : Intake} {data : Bytes}
  {brought : List Bytes}

@[simp] theorem outflow_withOutflow_self :
    (net.withOutflow stage o f brought).outflow stage o = f :=
  if_pos ⟨rfl, rfl⟩

theorem outflow_withOutflow_of_ne {p : Output} (h : ¬(i = stage ∧ p = o)) :
    (net.withOutflow stage o f brought).outflow i p = net.outflow i p := if_neg h

theorem record_withOutflow (hf : f.written = (net.outflow stage o).written) :
    (net.withOutflow stage o f brought).record = net.record := by
  funext i
  simp only [record, withOutflow]
  congr
  funext p
  split
  · next heq => rw [heq.1, heq.2, hf]
  · rfl

theorem record_withOutflow_self (hf : f.written = (net.outflow stage o).written ++ data) :
    (net.withOutflow stage o f brought).record stage = (net.record stage).write o data := by
  simp only [record, withOutflow, Record.write, true_and]
  congr
  funext p
  split
  · next heq => rw [heq, hf]
  · rw [List.append_nil]

theorem record_withOutflow_of_ne (hi : i ≠ stage) :
    (net.withOutflow stage o f brought).record i = net.record i := by
  simp [record, withOutflow, hi]

@[simp] theorem record_shutInput (net : Network ends child) (stage : Nat) :
    (net.shutInput stage).record = net.record := by
  cases stage with
  | zero => rfl
  | succ before => exact record_withOutflow rfl

@[simp] theorem record_shutOutput (net : Network ends child) (stage : Nat) (o : Output) :
    (net.shutOutput stage o).record = net.record := record_withOutflow rfl

@[simp] theorem activity_shutInput (net : Network ends child) (stage : Nat) :
    (net.shutInput stage).activity = net.activity := by
  cases stage <;> rfl

@[simp] theorem activity_shutOutput (net : Network ends child) (stage : Nat) (o : Output) :
    (net.shutOutput stage o).activity = net.activity := rfl

theorem record_note_self :
    (net.note stage size (some data)).record stage = (net.record stage).read size data := by
  simp [record, note, Record.read]

theorem record_note_of_ne (hi : i ≠ stage) :
    (net.note stage size (some data)).record i = net.record i := by
  simp [record, note, Function.update_of_ne hi]

end Fields

/-- All streams between the programs are whole: what has been read is what was written or fed, up to
what stands in a pipe, and only a program that has exited has closed its ends. -/
structure Whole (input : Bytes) (net : Network ends child) : Prop where
  writable : ∀ i, (net.activity i).isOver = false → ∀ o, (net.outflow i o).pipe.writable = true
  feeds : net.intake.Feeds input (net.taken 0) (net.ended 0) (net.activity 0).isOver
  joins : ∀ i, i + 1 < ends.length → (net.outflow i .stdout).Joins (net.taken (i + 1))
    (net.ended (i + 1)) (net.activity (i + 1)).isOver
  brings : ∀ i o, (net.outflow i o).Brings (Ends.outlet? ends i o) (Piece.bytesOf i o net.pieces)

theorem whole_start (input : Bytes) (feed : Capacity) (pipes : Nat → Output → Capacity) :
    (start ends child input feed pipes).Whole input where
  writable i _ o := rfl
  feeds := by
    have hcarries : (start ends child input feed pipes).intake.Carries input :=
      ⟨rfl, List.nil_prefix, fun _ => Channel.content_ofBytes input, by simp [start, Conduit.empty]⟩
    refine ⟨hcarries, rfl, fun hended => ?_, fun hclosed => ?_⟩
    · cases hended
    · cases hclosed
  joins i _ := by
    refine ⟨rfl, fun hended => ?_, fun hclosed => ?_⟩
    · cases hended
    · cases hclosed
  brings i o := by
    unfold Outflow.Brings
    split
    · refine ⟨⟨rfl, fun hover => by simp [start, Phase.Over] at hover⟩, fun hclosed => ?_⟩
      cases hclosed
    · rfl
    · trivial

/-! ### One turn -/

section Turn

variable {activity : Activity (child stage).Memory}

/-- A program goes on, and the others stay where they are. -/
theorem lives_goOn (hothers : ∀ i, i ≠ stage → (child i).Lives (net.record i) (net.activity i))
    (hlives : (child stage).Lives (net.record stage) activity) (i : Nat) :
    (child i).Lives (net.record i) ((net.goOn stage activity).activity i) := by
  by_cases hi : i = stage
  · subst hi
    simpa [goOn] using hlives
  · simpa [goOn, Function.update_of_ne hi] using hothers i hi

theorem Whole.goOn (h : net.Whole input) (hrunning : (net.activity stage).isOver = false)
    (activity : Activity (child stage).Memory) : (net.goOn stage activity).Whole input := by
  have hover (i : Nat) (hi : (net.activity i).isOver = true) :
      ((net.goOn stage activity).activity i).isOver = true := by
    by_cases hs : i = stage
    · subst hs
      rw [hrunning] at hi
      cases hi
    · simpa [Network.goOn, Function.update_of_ne hs] using hi
  refine ⟨fun i hi => h.writable i ?_, ?_, fun i hi => ?_, h.brings⟩
  · cases hbefore : (net.activity i).isOver with
    | false => rfl
    | true =>
      rw [hover i hbefore] at hi
      cases hi
  · have hfeeds := h.feeds
    exact ⟨hfeeds.carries, hfeeds.taken_eq, hfeeds.atEnd, fun hr => hover 0 (hfeeds.readable hr)⟩
  · have hjoins := h.joins i hi
    exact ⟨hjoins.conserved, hjoins.atEnd, fun hr => hover (i + 1) (hjoins.readable hr)⟩

/-- A pipe or file at one end has changed, and all others are as they were. -/
theorem Whole.withOutflow (h : net.Whole input) (brought : List Bytes)
    (hwritable : (net.activity stage).isOver = false → f.pipe.writable = true)
    (hjoins : o = .stdout → stage + 1 < ends.length →
      f.Joins (net.taken (stage + 1)) (net.ended (stage + 1)) (net.activity (stage + 1)).isOver)
    (hbrings : f.Brings (Ends.outlet? ends stage o)
      (Piece.bytesOf stage o net.pieces ++ brought.flatten)) :
    (net.withOutflow stage o f brought).Whole input := by
  refine ⟨fun i hi p => ?_, h.feeds, fun i hi => ?_, fun i p => ?_⟩
  · by_cases hs : i = stage ∧ p = o
    · obtain ⟨rfl, rfl⟩ := hs
      rw [outflow_withOutflow_self]
      exact hwritable hi
    · rw [outflow_withOutflow_of_ne hs]
      exact h.writable i hi p
  · by_cases hs : i = stage ∧ .stdout = o
    · obtain ⟨rfl, rfl⟩ := hs
      rw [outflow_withOutflow_self]
      exact hjoins rfl hi
    · rw [outflow_withOutflow_of_ne hs]
      exact h.joins i hi
  · have hpieces : Piece.bytesOf i p (net.withOutflow stage o f brought).pieces =
        Piece.bytesOf i p net.pieces ++ if stage = i ∧ o = p then brought.flatten else [] := by
      rw [← Piece.bytesOf_chunks, ← Piece.bytesOf_append]
      rfl
    rw [hpieces]
    by_cases hs : i = stage ∧ p = o
    · obtain ⟨rfl, rfl⟩ := hs
      rw [outflow_withOutflow_self, if_pos ⟨rfl, rfl⟩]
      exact hbrings
    · have hs' : ¬(stage = i ∧ o = p) := fun heq => hs ⟨heq.1.symm, heq.2.symm⟩
      rw [outflow_withOutflow_of_ne hs, if_neg hs', List.append_nil]
      exact h.brings i p

/-- A program that reads is given an answer, the end of its input once it has read that before. -/
theorem Whole.read {answer : Option Bytes} (h : net.Whole input) (hline : Ends.InLine ends)
    (hstage : stage < ends.length) (hrunning : (net.activity stage).isOver = false)
    (hread : net.read? size amount stage = some (answer, net')) :
    ∃ data, answer = some data ∧ ((net.record stage).ended = true → data = []) ∧
      net'.activity = net.activity ∧ net'.record = net.record ∧
      (net'.note stage size answer).Whole input := by
  cases stage with
  | zero =>
    obtain ⟨⟨_, intake⟩, hintake, heq⟩ := Option.map_eq_some_iff.1 hread
    cases heq
    obtain ⟨data, rfl, hend, hfeeds⟩ := (hrunning ▸ h.feeds).read hintake
    refine ⟨data, rfl, hend, rfl, rfl, h.writable, ?_, fun i hi => ?_, h.brings⟩
    · simpa [note, withIntake, hrunning] using hfeeds
    · simpa [note, withIntake] using h.joins i hi
  | succ before =>
    obtain ⟨⟨_, f⟩, hpipe, heq⟩ := Option.map_eq_some_iff.1 hread
    cases heq
    obtain ⟨data, rfl, hend, hwritten, hwritable, hjoins⟩ :=
      (hrunning ▸ h.joins before hstage).read hpipe
    have htarget := hline.outlet?_eq_pipe hstage
    refine ⟨data, rfl, hend, rfl, record_withOutflow hwritten, fun i hi o => ?_, ?_, fun i hi => ?_,
      fun i o => ?_⟩
    · have hold := h.writable i hi o
      by_cases hs : i = before ∧ o = .stdout
      · obtain ⟨rfl, rfl⟩ := hs
        simpa [note, hwritable] using hold
      · simpa [note, outflow_withOutflow_of_ne hs] using hold
    · simpa [note, Network.withOutflow] using h.feeds
    · by_cases hs : i = before
      · subst hs
        simpa [note, Network.withOutflow, hrunning] using hjoins
      · have hold := h.joins i hi
        simpa [note, Network.withOutflow, hs] using hold
    · by_cases hs : i = before ∧ o = .stdout
      · obtain ⟨rfl, rfl⟩ := hs
        rw [htarget]
        trivial
      · have hold := h.brings i o
        simpa [note, Network.withOutflow, hs] using hold

/-- How a program stands whose write was not refused: a part of it has been written, at once. -/
structure Takes (net net' : Network ends child) (stage : Nat) (o : Output) (data : Bytes)
    (count : Nat) : Prop where
  count_le : count ≤ data.length
  activity : net'.activity = net.activity
  record_self : net'.record stage = (net.record stage).write o (data.take count)
  record_of_ne : ∀ i, i ≠ stage → net'.record i = net.record i

/-- A write into a pipe that is read, or emptied by a pump. -/
theorem Whole.write_pipe {data : Bytes} {answer : Option Nat} (h : net.Whole input)
    (hwritable : (net.outflow stage o).pipe.writable = true)
    (hreadable : (net.outflow stage o).pipe.readable = true)
    (hwrite : (net.outflow stage o).write? data amount = some (answer, f))
    (hbrings : f.Brings (Ends.outlet? ends stage o) (Piece.bytesOf stage o net.pieces)) :
    ∃ count, answer = some count ∧ Takes net (net.withOutflow stage o f []) stage o data count ∧
      (net.withOutflow stage o f []).Whole input := by
  obtain ⟨count, hcount, rfl, hwritten, -, hw, hr⟩ :=
    Outflow.write?_some hwritable hreadable hwrite
  refine ⟨count, rfl, ⟨hcount, rfl, record_withOutflow_self hwritten,
    fun i => record_withOutflow_of_ne⟩, h.withOutflow [] (fun _ => hw) ?_ ?_⟩
  · rintro rfl hnext
    exact (h.joins stage hnext).write hwritable hreadable hwrite
  · rwa [List.flatten_nil, List.append_nil]

/-- A write is not refused, for a reader that has closed its end has read that of the stream. -/
theorem Whole.write {data : Bytes} {answer : Option Nat} (h : net.Whole input)
    (hends : Ends.Chained ends) (hstage : stage < ends.length)
    (hrunning : (net.activity stage).isOver = false)
    (hover : ∀ i < ends.length, (net.activity i).isOver = true → net.ended i = true)
    (hwrite : net.write? stage o data amount = some (answer, net')) :
    ∃ count, answer = some count ∧ Takes net net' stage o data count ∧ net'.Whole input := by
  have hwritable := h.writable stage hrunning o
  have hbrings := h.brings stage o
  obtain ⟨target, htarget⟩ := Ends.exists_outlet? hstage o
  rw [htarget] at hbrings
  unfold write? at hwrite
  rw [htarget] at hwrite
  cases target with
  | file handle =>
    simp only [hwritable, ↓reduceIte, Option.some.injEq, Prod.mk.injEq] at hwrite
    obtain ⟨rfl, rfl⟩ := hwrite
    refine ⟨data.length, rfl, ⟨Nat.le_refl _, rfl, ?_, fun i => record_withOutflow_of_ne⟩,
      h.withOutflow [data] (fun _ => hwritable) ?_ ?_⟩
    · rw [List.take_length]
      exact record_withOutflow_self rfl
    · rintro rfl hnext
      cases htarget.symm.trans (hends.outlet?_eq_pipe hnext)
    · rw [htarget, List.flatten_singleton]
      exact congrArg (· ++ data) hbrings
  | pipe =>
    obtain ⟨⟨_, f⟩, hf, heq⟩ := Option.map_eq_some_iff.1 hwrite
    cases heq
    obtain ⟨rfl, hnext⟩ := hends.read_of_pipe htarget
    have hjoins := h.joins stage hnext
    have hreadable := Conduit.readable_of_writable
      (fun hr => (hjoins.atEnd (hover (stage + 1) hnext (hjoins.readable hr))).2) hwritable
    refine h.write_pipe hwritable hreadable hf ?_
    rw [htarget]
    trivial
  | drained =>
    obtain ⟨⟨_, f⟩, hf, heq⟩ := Option.map_eq_some_iff.1 hwrite
    cases heq
    have hreadable := Conduit.readable_of_writable hbrings.2 hwritable
    refine h.write_pipe hwritable hreadable hf ?_
    rw [htarget]
    refine ⟨hbrings.1.write hf, fun hclosed => ?_⟩
    obtain ⟨-, -, -, -, -, -, hr⟩ := Outflow.write?_some hwritable hreadable hf
    rw [hr] at hclosed
    cases hclosed

theorem Whole.shutInput (h : net.Whole input) (hline : Ends.InLine ends)
    (hstage : stage < ends.length) (hover : (net.activity stage).isOver = true) :
    (net.shutInput stage).Whole input := by
  cases stage with
  | zero =>
    refine ⟨h.writable, ?_, h.joins, h.brings⟩
    have hfeeds := h.feeds.shut
    rwa [← hover] at hfeeds
  | succ before =>
    refine h.withOutflow [] (fun hi => h.writable before hi .stdout) (fun _ _ => ?_) ?_
    · rw [hover]
      exact (h.joins before hstage).leave
    · rw [hline.outlet?_eq_pipe hstage]
      trivial

theorem Whole.shutOutput (h : net.Whole input) (hover : (net.activity stage).isOver = true)
    (o : Output) : (net.shutOutput stage o).Whole input := by
  refine h.withOutflow [] (fun hi => ?_) (fun ho hnext => ?_) ?_
  · rw [hover] at hi
    cases hi
  · subst ho
    exact (h.joins stage hnext).shut
  · have hbrings := h.brings stage o
    rw [List.flatten_nil, List.append_nil]
    exact hbrings.shut

theorem Whole.pump {chunks : List Bytes} (h : net.Whole input) (hline : Ends.InLine ends)
    (hdrained : Ends.outlet? ends stage o = some .drained)
    (hpump : (net.outflow stage o).pump? amount = some (chunks, f)) :
    (net.withOutflow stage o f chunks).Whole input := by
  have hbrings := h.brings stage o
  rw [hdrained] at hbrings
  obtain ⟨hcarries, hwritable, -⟩ := hbrings.1.pump hpump
  refine h.withOutflow chunks (fun hi => hwritable.trans (h.writable stage hi o)) ?_ ?_
  · rintro rfl hnext
    cases hdrained.symm.trans (hline.outlet?_eq_pipe hnext)
  · rw [hdrained]
    refine ⟨hcarries, fun hclosed => ?_⟩
    rw [hwritable]
    rcases Outflow.pump?_cases hpump with ⟨chunk, pipe, -, hread, -, rfl⟩ | ⟨chunk, -, -, rfl⟩ |
      ⟨hphase, -, -⟩
    · obtain ⟨-, -, hsame⟩ := Conduit.read?_some hread
      exact hbrings.2 (hsame.symm.trans hclosed)
    · exact hbrings.2 hclosed
    · exact (hbrings.1.ended (.inl hphase)).2

end Turn

/-- The programs have done what they have done with open ends, and all streams between them are
whole. -/
structure Sound (input : Bytes) (net : Network ends child) : Prop extends Whole input net where
  lives : ∀ i, (child i).Lives (net.record i) (net.activity i)

variable {move : NetworkMove} {moves : List NetworkMove}

/-- A program that has exited has read its whole input and has written what it makes of it. -/
theorem Sound.exited {g : Bytes → Performance} {status : Int} (hr : net.Sound input)
    (hc : (child i).Computes g) (hexited : net.activity i = .exited status) :
    net.ended i = true ∧ status = (g (net.taken i)).status ∧
      ∀ o, (net.outflow i o).written = (g (net.taken i)).written o := by
  have hlives := hr.lives i
  rw [hexited] at hlives
  obtain ⟨memory, hpast, hwish⟩ := hlives
  obtain ⟨hended, hwritten, hstatus⟩ := hc.exits _ memory status hpast hwish
  exact ⟨hended, hstatus.symm, fun o => (congrFun hwritten o).symm⟩

theorem Sound.read {answer : Option Bytes} {memory : (child stage).Memory}
    {next : Option Bytes → (child stage).Memory} (hr : net.Sound input) (hline : Ends.InLine ends)
    (hstage : stage < ends.length) (hrunning : net.activity stage = .running memory)
    (hwish : (child stage).wish memory = .read size next)
    (h : net.read? size amount stage = some (answer, net')) :
    ((net'.note stage size answer).goOn stage (.running (next answer))).Sound input := by
  have hpast := hr.lives stage
  have hopen : (net.activity stage).isOver = false := congrArg Activity.isOver hrunning
  rw [hrunning] at hpast
  obtain ⟨data, rfl, hend, hactivities, hrecord, hwhole⟩ := hr.toWhole.read hline hstage hopen h
  have hsame : (net'.note stage size (some data)).activity = net.activity := hactivities
  refine ⟨hwhole.goOn (by rw [hsame, hopen]) _, lives_goOn (fun i hi => ?_) ?_⟩
  · rw [record_note_of_ne hi, hrecord, hsame]
    exact hr.lives i
  · rw [record_note_self, hrecord]
    exact hpast.read hwish hend

theorem Sound.write {data : Bytes} {answer : Option Nat} {memory : (child stage).Memory}
    {next : Option Nat → (child stage).Memory} (hr : net.Sound input) (hends : Ends.Chained ends)
    (hcomputes : ∀ i < ends.length, ∃ f, (child i).Computes f) (hstage : stage < ends.length)
    (hrunning : net.activity stage = .running memory)
    (hwish : (child stage).wish memory = .write o data next)
    (h : net.write? stage o data amount = some (answer, net')) :
    (net'.goOn stage (.running (next answer))).Sound input := by
  have hpast := hr.lives stage
  have hopen : (net.activity stage).isOver = false := congrArg Activity.isOver hrunning
  have hover (i : Nat) (hi : i < ends.length) (hexited : (net.activity i).isOver = true) :
      net.ended i = true := by
    obtain ⟨status, hactivity⟩ := Activity.isOver_iff.1 hexited
    obtain ⟨f, hf⟩ := hcomputes i hi
    exact (hr.exited hf hactivity).1
  rw [hrunning] at hpast
  obtain ⟨count, rfl, htakes, hwhole⟩ := hr.toWhole.write hends hstage hopen hover h
  refine ⟨hwhole.goOn (by rw [htakes.activity, hopen]) _, lives_goOn (fun i hi => ?_) ?_⟩
  · rw [htakes.record_of_ne i hi, htakes.activity]
    exact hr.lives i
  · rw [htakes.record_self]
    exact hpast.write hwish htakes.count_le

theorem Sound.exit {status : Int} {memory : (child stage).Memory} (hr : net.Sound input)
    (hline : Ends.InLine ends) (hstage : stage < ends.length)
    (hrunning : net.activity stage = .running memory)
    (hwish : (child stage).wish memory = .exit status) :
    (((net.goOn stage (.exited status)).shutInput stage).shutOutput stage .stdout
      |>.shutOutput stage .stderr).Sound input := by
  have hpast := hr.lives stage
  have hopen : (net.activity stage).isOver = false := congrArg Activity.isOver hrunning
  have hexited : ((net.goOn stage (.exited status)).activity stage).isOver = true := by
    simp [goOn, Activity.isOver]
  have hinput := (hr.toWhole.goOn hopen (.exited status)).shutInput hline hstage hexited
  have hstdout := hinput.shutOutput (by rwa [activity_shutInput]) .stdout
  have hstderr := hstdout.shutOutput (by rwa [activity_shutOutput, activity_shutInput]) .stderr
  refine ⟨hstderr, fun i => ?_⟩
  rw [hrunning] at hpast
  have hleft : (child stage).Lives (net.record stage) (.exited status) := ⟨memory, hpast, hwish⟩
  simp only [record_shutOutput, record_shutInput, activity_shutOutput, activity_shutInput]
  exact lives_goOn (fun i _ => hr.lives i) hleft i

theorem Sound.proceed (hr : net.Sound input) (hends : Ends.Chained ends)
    (hcomputes : ∀ i < ends.length, ∃ f, (child i).Computes f) (hstage : stage < ends.length)
    (h : net.proceed? stage amount = some net') : net'.Sound input := by
  obtain ⟨f, hf⟩ := hcomputes stage hstage
  unfold proceed? at h
  split at h
  · cases h
  · next memory hrunning =>
    have hpast := hr.lives stage
    rw [hrunning] at hpast
    split at h
    · next size next hwish =>
      obtain ⟨⟨answer, net₁⟩, hread, rfl⟩ := Option.map_eq_some_iff.1 h
      exact hr.read hends.toInLine hstage hrunning hwish hread
    · next o data next hwish =>
      obtain ⟨⟨answer, net₁⟩, hwrite, rfl⟩ := Option.map_eq_some_iff.1 h
      exact hr.write hends hcomputes hstage hrunning hwish hwrite
    -- a program that is a function closes no end before it exits
    · next next hwish => exact absurd hwish (hf.keepsInput _ memory next hpast)
    · next o next hwish => exact absurd hwish (hf.keepsOutput _ memory o next hpast)
    · next status hwish =>
      cases h
      exact hr.exit hends.toInLine hstage hrunning hwish

theorem Sound.step (hr : net.Sound input) (hends : Ends.Chained ends)
    (hcomputes : ∀ i < ends.length, ∃ f, (child i).Computes f)
    (h : net.step? move = some net') : net'.Sound input := by
  cases move with
  | program stage amount =>
    simp only [step?] at h
    split at h
    · next hstage => exact hr.proceed hends hcomputes hstage h
    · cases h
  | pump pump amount =>
    cases pump with
    | feed =>
      obtain ⟨intake, hpump, rfl⟩ := Option.map_eq_some_iff.1 h
      exact ⟨⟨hr.writable, hr.feeds.pump hpump, hr.joins, hr.brings⟩, hr.lives⟩
    | drain stage o =>
      simp only [step?] at h
      split at h
      · next hdrained =>
        obtain ⟨⟨chunks, f⟩, hpump, rfl⟩ := Option.map_eq_some_iff.1 h
        have hwritten : f.written = (net.outflow stage o).written := by
          rcases Outflow.pump?_cases hpump with ⟨_, _, _, _, _, rfl⟩ | ⟨_, _, _, rfl⟩ |
            ⟨_, _, rfl⟩ <;> rfl
        refine ⟨hr.toWhole.pump hends.toInLine hdrained hpump, ?_⟩
        rw [record_withOutflow hwritten]
        exact hr.lives
      · cases h
  | close stage =>
    simp only [step?] at h
    split at h
    · next hlast =>
      have hnext := (hends.read_of_pipe hlast.1).2
      omega
    · cases h

theorem Sound.run (hr : net.Sound input) (hends : Ends.Chained ends)
    (hcomputes : ∀ i < ends.length, ∃ f, (child i).Computes f)
    (h : net.run? moves = some net') : net'.Sound input := by
  induction moves generalizing net with
  | nil =>
    cases h
    exact hr
  | cons move rest ih =>
    obtain ⟨u, hstep, hrest⟩ := Option.bind_eq_some_iff.1 h
    exact ih (hr.step hends hcomputes hstep) hrest

theorem sound_start (input : Bytes) (feed : Capacity) (pipes : Nat → Output → Capacity) :
    (start ends child input feed pipes).Sound input :=
  ⟨whole_start input feed pipes, fun _ => .start⟩

/-! ### What comes out -/

/-- In the end all that a program has written to a file or into the pipe of a pump has come out. -/
theorem Sound.brought (hr : net.Sound input) (hdone : net.Done) (hi : i < ends.length)
    (hpipe : Ends.outlet? ends i o ≠ some .pipe) :
    Piece.bytesOf i o net.pieces = (net.outflow i o).written := by
  obtain ⟨target, htarget⟩ := Ends.exists_outlet? hi o
  have hbrings := hr.brings i o
  rw [htarget] at hbrings
  cases target with
  | file handle => exact hbrings
  | pipe => exact absurd htarget hpipe
  | drained => exact hbrings.1.arrived_of_finished (hdone.drained i o htarget)

/-- Each program has made what it makes of the output of the one before it. -/
theorem Sound.performs {α : Type} {perform : α → Bytes → Performance} {processes : List α}
    {p : Performance} (hr : net.Sound input) (hdone : net.Done)
    (hlength : processes.length = ends.length)
    (hcomputes : ∀ i process, processes[i]? = some process → (child i).Computes (perform process))
    (hp : (performances perform processes input)[i]? = some p) :
    net.activity i = .exited p.status ∧ ∀ o, (net.outflow i o).written = p.written o := by
  have hbound {i : Nat} {process : α} (hprocess : processes[i]? = some process) :
      i < ends.length := hlength ▸ (List.getElem?_eq_some_iff.1 hprocess).1
  -- what a program has read is what the one before it has written, so the induction is along the
  -- chain
  induction i generalizing p with
  | zero =>
    obtain ⟨process, hprocess, rfl⟩ := performances_zero hp
    obtain ⟨status, hactivity⟩ := hdone.exited 0 (hbound hprocess)
    obtain ⟨hended, rfl, hwritten⟩ := hr.exited (hcomputes 0 process hprocess) hactivity
    rw [hr.feeds.atEnd hended] at hactivity hwritten
    exact ⟨hactivity, hwritten⟩
  | succ i ih =>
    obtain ⟨process, q, hprocess, hq, rfl⟩ := performances_succ hp
    obtain ⟨status, hactivity⟩ := hdone.exited (i + 1) (hbound hprocess)
    obtain ⟨hended, rfl, hwritten⟩ := hr.exited (hcomputes (i + 1) process hprocess) hactivity
    have hjoins := hr.joins i (hbound hprocess)
    have htaken : net.taken (i + 1) = q.stdout := by
      have hconserved := hjoins.conserved
      rw [(hjoins.atEnd hended).1, List.append_nil] at hconserved
      exact hconserved.trans ((ih hq).2 .stdout)
    rw [htaken] at hactivity hwritten
    exact ⟨hactivity, hwritten⟩

/-! ### Where it comes from -/

/-- Only the programs of the network have written. -/
def Staged (net : Network ends child) : Prop := ∀ piece ∈ net.pieces, piece.stage < ends.length

theorem Staged.withOutflow (h : net.Staged) (hstage : stage < ends.length) (o : Output)
    (f : Outflow) (brought : List Bytes) : (net.withOutflow stage o f brought).Staged := by
  intro piece hpiece
  rcases List.mem_append.1 hpiece with hold | hnew
  · exact h piece hold
  · obtain ⟨_, -, rfl⟩ := List.mem_map.1 hnew
    exact hstage

theorem Staged.shutInput (h : net.Staged) (hstage : stage < ends.length) :
    (net.shutInput stage).Staged := by
  cases stage with
  | zero => exact h
  | succ before => exact h.withOutflow (Nat.lt_of_succ_lt hstage) _ _ _

theorem Staged.shutOutput (h : net.Staged) (hstage : stage < ends.length) (o : Output) :
    (net.shutOutput stage o).Staged := h.withOutflow hstage _ _ _

theorem Staged.read {answer : Option Bytes} (hs : net.Staged) (hstage : stage < ends.length)
    (h : net.read? size amount stage = some (answer, net')) :
    (net'.note stage size answer).Staged := by
  have hread : net'.Staged := by
    cases stage with
    | zero =>
      obtain ⟨⟨_, intake⟩, -, heq⟩ := Option.map_eq_some_iff.1 h
      cases heq
      exact hs
    | succ before =>
      obtain ⟨⟨_, f⟩, -, heq⟩ := Option.map_eq_some_iff.1 h
      cases heq
      exact hs.withOutflow (Nat.lt_of_succ_lt hstage) _ _ _
  cases answer <;> exact hread

theorem Staged.write {data : Bytes} {answer : Option Nat} (hs : net.Staged)
    (hstage : stage < ends.length)
    (h : net.write? stage o data amount = some (answer, net')) : net'.Staged := by
  simp only [write?] at h
  split at h
  · split at h
    · cases h
      exact hs.withOutflow hstage _ _ _
    · cases h
      exact hs
  · obtain ⟨⟨_, f⟩, -, heq⟩ := Option.map_eq_some_iff.1 h
    cases heq
    exact hs.withOutflow hstage _ _ _

theorem Staged.proceed (hs : net.Staged) (hstage : stage < ends.length)
    (h : net.proceed? stage amount = some net') : net'.Staged := by
  unfold proceed? at h
  split at h
  · cases h
  · split at h
    · obtain ⟨⟨answer, net₁⟩, hread, rfl⟩ := Option.map_eq_some_iff.1 h
      exact hs.read hstage hread
    · obtain ⟨⟨answer, net₁⟩, hwrite, rfl⟩ := Option.map_eq_some_iff.1 h
      have hwritten : net₁.Staged := hs.write hstage hwrite
      exact hwritten
    · cases h
      exact hs.shutInput hstage
    · cases h
      exact hs.shutOutput hstage _
    · next status _ =>
      cases h
      have hgone : (net.goOn stage (.exited status)).Staged := hs
      exact ((hgone.shutInput hstage).shutOutput hstage .stdout).shutOutput hstage .stderr

theorem Staged.step (hs : net.Staged) (h : net.step? move = some net') : net'.Staged := by
  unfold step? at h
  split at h
  · split at h
    · next hstage => exact hs.proceed hstage h
    · cases h
  · obtain ⟨intake, -, rfl⟩ := Option.map_eq_some_iff.1 h
    exact hs
  · split at h
    · next hdrained =>
      obtain ⟨⟨chunks, f⟩, -, rfl⟩ := Option.map_eq_some_iff.1 h
      obtain ⟨e, he, -⟩ := Option.map_eq_some_iff.1 hdrained
      exact hs.withOutflow (List.getElem?_eq_some_iff.1 he).1 _ _ _
    · cases h
  · split at h
    · next hlast =>
      cases h
      exact hs.withOutflow (by omega) _ _ _
    · cases h

theorem Staged.run (hs : net.Staged) (h : net.run? moves = some net') : net'.Staged := by
  induction moves generalizing net with
  | nil =>
    cases h
    exact hs
  | cons move rest ih =>
    obtain ⟨u, hstep, hrest⟩ := Option.bind_eq_some_iff.1 h
    exact ih (hs.step hstep) hrest

end Network

/-! ### Systems that run programs side by side -/

namespace Programs.SideBySide

variable {programs : Programs} {perform : programs.Process → Bytes → Performance}
  {held : List Place} {joined : List (programs.Process × Ends)} {input : Bytes}
  {files : FileSystem} {pieces : List Piece}

theorem stages (h : programs.SideBySide perform held joined input files pieces) :
    ∀ piece ∈ pieces, piece.stage < joined.length := by
  obtain ⟨child, net, -, ⟨feed, pipes, moves, hrun⟩, -, rfl, -⟩ := h.ran
  have hstart : (Network.start (joined.map (·.2)) child input feed pipes).Staged := nofun
  intro piece hpiece
  have hstage := hstart.run hrun piece hpiece
  rwa [List.length_map] at hstage

/-- Whatever order the turns were taken in: each program ends with the status that it has for the
output of the one before it, and has written to its error output what it writes then, and the last
also to its output. -/
theorem of_chained (h : programs.SideBySide perform held joined input files pieces)
    (hchained : Ends.Chained (joined.map (·.2))) {i : Nat} {p : Performance}
    (hp : (performances perform (joined.map (·.1)) input)[i]? = some p) :
    (i + 1 = joined.length → Piece.bytesOf i .stdout pieces = p.stdout) ∧
      Piece.bytesOf i .stderr pieces = p.stderr ∧
      (programs.run joined input files).status i = p.status := by
  obtain ⟨child, net, hcomputes, ⟨feed, pipes, moves, hrun⟩, hdone, rfl, hstatuses⟩ := h.ran
  have hi : i < joined.length := by
    have hlast := (List.getElem?_eq_some_iff.1 hp).1
    rwa [length_performances, List.length_map] at hlast
  have hends : i < (joined.map (·.2)).length := by rwa [List.length_map]
  have hfunctions : ∀ i < (joined.map (·.2)).length, ∃ f, (child i).Computes f := by
    intro i hi
    rw [List.length_map] at hi
    exact ⟨_, hcomputes i joined[i].1 joined[i].2 (List.getElem?_eq_getElem hi)⟩
  have hr := (Network.sound_start input feed pipes).run hchained hfunctions hrun
  obtain ⟨hactivity, hwritten⟩ := hr.performs hdone (by simp) (fun i process hprocess => by
    rw [List.getElem?_map] at hprocess
    obtain ⟨⟨_, e⟩, hjoined, rfl⟩ := Option.map_eq_some_iff.1 hprocess
    exact hcomputes i _ e hjoined) hp
  refine ⟨fun hlast => ?_, ?_, ?_⟩
  · rw [hr.brought hdone hends, hwritten]
    · rfl
    · intro hpipe
      have hnext := (hchained.read_of_pipe hpipe).2
      rw [List.length_map] at hnext
      omega
  · rw [hr.brought hdone hends, hwritten]
    · rfl
    · intro hpipe
      cases (hchained.read_of_pipe hpipe).1
  · exact Activity.exited.inj ((hstatuses i hi).symm.trans hactivity)

end Programs.SideBySide
end PipelineShell
