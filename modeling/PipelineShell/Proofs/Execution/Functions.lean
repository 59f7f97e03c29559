import Mathlib.Data.Finset.Lattice.Fold
import PipelineShell.Proofs.Execution.Network

/-!
# Systems of functions

Any functions are the programs of some system: a program that reads its whole input and writes its
output afterwards. Programs that run side by side may take their turns one after another.
-/

namespace PipelineShell

/-! ### A program that is a function -/

/-- What a program remembers that reads all, then writes. -/
inductive ReadAll
  | reading (got : Bytes)
  | writing (left : List (Output × Bytes)) (status : Int)
  deriving DecidableEq, Repr

/-- Reads at most `size + 1` bytes at once up to the end, then writes what the function says. What
is refused is dropped. -/
def Child.ofFunction (size : Nat) (f : Bytes → Performance) : Child where
  Memory := ReadAll
  start := .reading []
  wish
    | .reading got => .read (size + 1) fun answer =>
      match answer.getD [] with
      | [] => .writing [(.stderr, (f got).stderr), (.stdout, (f got).stdout)] (f got).status
      | data => .reading (got ++ data)
    | .writing ((o, data) :: rest) status => .write o data fun count =>
      match data.drop (count.getD data.length) with
      | [] => .writing rest status
      | left => .writing ((o, left) :: rest) status
    | .writing [] status => .exit status

namespace ReadAll

/-- What is still to be written to an output. -/
def behind (o : Output) (left : List (Output × Bytes)) : Bytes :=
  (left.filter (·.1 = o)).flatMap (·.2)

/-- What a program has done that stands here. -/
def Reached (f : Bytes → Performance) (r : Record) : ReadAll → Prop
  | .reading got => r = { taken := got }
  | .writing left status => r.ended = true ∧ status = (f r.taken).status ∧
      ∀ o, r.written o ++ behind o left = (f r.taken).written o

theorem behind_cons (o p : Output) (data : Bytes) (rest : List (Output × Bytes)) :
    behind o ((p, data) :: rest) = (if o = p then data else []) ++ behind o rest := by
  by_cases h : p = o
  · simp [behind, h]
  · simp [behind, h, Ne.symm h]

section Reached

variable {size : Nat} {f : Bytes → Performance} {r : Record}
  {memory : (Child.ofFunction size f).Memory} {data : Bytes}

theorem Reached.read {limit : Nat} {next : Option Bytes → (Child.ofFunction size f).Memory}
    (h : Reached f r memory) (hwish : (Child.ofFunction size f).wish memory = .read limit next) :
    Reached f (r.read limit data) (next (some data)) := by
  match memory, hwish, h with
  | .reading got, hwish, h =>
    cases hwish
    cases h
    cases data with
    | nil =>
      refine ⟨rfl, by simp [Record.read], fun o => ?_⟩
      cases o <;> simp [Record.read, behind, Performance.written]
    | cons b rest => simp [Record.read, Reached, Conduit.isEnd]
  | .writing [] _, hwish, _ => cases hwish
  | .writing ((_, _) :: _) _, hwish, _ => cases hwish

theorem Reached.write {o : Output} {next : Option Nat → (Child.ofFunction size f).Memory}
    (h : Reached f r memory) (hwish : (Child.ofFunction size f).wish memory = .write o data next)
    (count : Nat) : Reached f (r.write o (data.take count)) (next (some count)) := by
  match memory, hwish, h with
  | .reading _, hwish, _ => cases hwish
  | .writing [] _, hwish, _ => cases hwish
  | .writing ((_, _) :: rest) status, hwish, ⟨hended, hstatus, hwritten⟩ =>
    cases hwish
    have hsplit (p : Output) : (r.write o (data.take count)).written p ++
        ((if p = o then data.drop count else []) ++ behind p rest) = (f r.taken).written p := by
      rw [← hwritten p, behind_cons]
      by_cases hp : p = o
      · simp only [Record.write, hp, ↓reduceIte, List.append_assoc]
        rw [← List.append_assoc (data.take count), List.take_append_drop]
      · simp [Record.write, hp]
    dsimp only [Option.getD_some]
    split
    · next hdrop =>
      refine ⟨hended, hstatus, fun p => ?_⟩
      have hpart := hsplit p
      rwa [hdrop, ite_self, List.nil_append] at hpart
    · refine ⟨hended, hstatus, fun p => ?_⟩
      rw [behind_cons]
      exact hsplit p

theorem reached_of_past (h : (Child.ofFunction size f).Past r memory) : Reached f r memory := by
  induction h with
  | start => rfl
  | read before wish atEnd ih => exact ih.read wish
  | write before wish count_le ih => exact ih.write wish _

end Reached

theorem computes_ofFunction (size : Nat) (f : Bytes → Performance) :
    (Child.ofFunction size f).Computes f where
  exits r memory status past wish := by
    have hreached := reached_of_past past
    match memory, wish, hreached with
    | .reading _, wish, _ => cases wish
    | .writing ((_, _) :: _) _, wish, _ => cases wish
    | .writing [] _, wish, ⟨hended, hstatus, hwritten⟩ =>
      cases wish
      refine ⟨hended, ?_, hstatus.symm⟩
      funext o
      rw [← hwritten o]
      exact List.append_nil _
  keepsInput r memory next past wish := by
    match memory, wish with
    | .reading _, wish => cases wish
    | .writing [] _, wish => cases wish
    | .writing ((_, _) :: _) _, wish => cases wish
  keepsOutput r memory o next past wish := by
    match memory, wish with
    | .reading _, wish => cases wish
    | .writing [] _, wish => cases wish
    | .writing ((_, _) :: _) _, wish => cases wish

end ReadAll

/-! ### One turn after another -/

/-- An output to which nothing has been written yet. -/
structure Outflow.Idle (size : Nat) (f : Outflow) : Prop where
  phase : f.phase = .reading
  content : f.pipe.content = []
  writable : f.pipe.writable = true
  readable : f.pipe.readable = true
  size_le : size ≤ f.pipe.capacity.1

/-- What has been written to an output and has not come out of it. -/
structure Outflow.Stands (f : Outflow) (data : Bytes) : Prop where
  phase : f.phase = .reading
  content : f.pipe.content = data
  readable : f.pipe.readable = true

theorem Outflow.Idle.write {f : Outflow} {size : Nat} {data : Bytes} (h : f.Idle size)
    (hdata : data.length ≤ size) :
    ∃ g, f.write? data data.length = some (some data.length, g) ∧ g.Stands data := by
  obtain ⟨pipe, hpipe, hcontent, -, hreadable⟩ :=
    Conduit.write?_whole h.content (Nat.le_trans hdata h.size_le)
  refine ⟨{ f with pipe, written := f.written ++ data }, ?_, h.phase, hcontent,
    hreadable.trans h.readable⟩
  simp [write?, h.writable, h.readable, hpipe]

namespace Network

variable {ends : List Ends} {child : Nat → Child} {net net' net'' : Network ends child}
  {i stage amount : Nat} {o : Output} {input : Bytes}

/-- Some order of turns leads from one point to another. -/
def Reaches (net net' : Network ends child) : Prop := ∃ moves, net.run? moves = some net'

theorem Reaches.refl (net : Network ends child) : net.Reaches net := ⟨[], rfl⟩

theorem Reaches.step {move : NetworkMove} (h : net.step? move = some net')
    (h' : net'.Reaches net'') : net.Reaches net'' := by
  obtain ⟨moves, hrun⟩ := h'
  exact ⟨move :: moves, by rw [run?, h, Option.bind_some, hrun]⟩

theorem Reaches.trans (h : net.Reaches net') (h' : net'.Reaches net'') : net.Reaches net'' := by
  obtain ⟨moves, hrun⟩ := h
  induction moves generalizing net with
  | nil =>
    cases hrun
    exact h'
  | cons move rest ih =>
    obtain ⟨u, hstep, hrest⟩ := Option.bind_eq_some_iff.1 hrun
    exact .step hstep (ih hrest)

/-- The pipe that a program reads from. -/
def inputPipe (net : Network ends child) : (stage : Nat) → Conduit
  | 0 => net.intake.pipe
  | stage + 1 => (net.outflow stage .stdout).pipe

/-- Only one program has moved, and only at its own ends. -/
structure Elsewhere (stage : Nat) (net net' : Network ends child) : Prop where
  activity : ∀ i, i ≠ stage → net'.activity i = net.activity i
  outflow : ∀ i o, i ≠ stage → ¬(i + 1 = stage ∧ o = .stdout) → net'.outflow i o = net.outflow i o
  fed : net'.intake.phase = net.intake.phase

theorem Elsewhere.refl (stage : Nat) (net : Network ends child) : net.Elsewhere stage net :=
  ⟨fun _ _ => rfl, fun _ _ _ _ => rfl, rfl⟩

theorem Elsewhere.trans (h : Elsewhere stage net net') (h' : Elsewhere stage net' net'') :
    Elsewhere stage net net'' :=
  ⟨fun i hi => (h'.activity i hi).trans (h.activity i hi),
    fun i o hi ho => (h'.outflow i o hi ho).trans (h.outflow i o hi ho), h'.fed.trans h.fed⟩

theorem elsewhere_goOn (net : Network ends child) (stage : Nat)
    (activity : Activity (child stage).Memory) : net.Elsewhere stage (net.goOn stage activity) :=
  ⟨fun i hi => by simp [goOn, Function.update_of_ne hi], fun _ _ _ _ => rfl, rfl⟩

theorem elsewhere_withOutflow (net : Network ends child) (stage : Nat) (o : Output) (f : Outflow)
    (brought : List Bytes) : net.Elsewhere stage (net.withOutflow stage o f brought) :=
  ⟨fun _ _ => rfl, fun _ _ hi _ => outflow_withOutflow_of_ne fun h => hi h.1, rfl⟩

theorem elsewhere_shutInput (net : Network ends child) (stage : Nat) :
    net.Elsewhere stage (net.shutInput stage) := by
  cases stage with
  | zero => exact ⟨fun _ _ => rfl, fun _ _ _ _ => rfl, rfl⟩
  | succ before =>
    refine ⟨fun _ _ => rfl, fun i o _ ho => outflow_withOutflow_of_ne fun h => ho ?_, rfl⟩
    exact ⟨congrArg (· + 1) h.1, h.2⟩

theorem outflow_shutInput (net : Network ends child) (stage : Nat) (o : Output) :
    (net.shutInput stage).outflow stage o = net.outflow stage o := by
  cases stage with
  | zero => rfl
  | succ before => exact outflow_withOutflow_of_ne fun h => absurd h.1 (by omega)

theorem pieces_shutInput (net : Network ends child) (stage : Nat) :
    (net.shutInput stage).pieces = net.pieces := by
  cases stage with
  | zero => rfl
  | succ before => exact List.append_nil net.pieces

theorem step_read {memory : (child stage).Memory} {size : Nat}
    {next : Option Bytes → (child stage).Memory} {data : Bytes} {pipe : Conduit}
    (hstage : stage < ends.length) (hrunning : net.activity stage = .running memory)
    (hwish : (child stage).wish memory = .read size next)
    (hopen : (net.inputPipe stage).readable = true)
    (hread : (net.inputPipe stage).read? size amount = some (data, pipe)) :
    ∃ net', net.step? (.program stage amount) = some net' ∧
      net'.activity stage = .running (next (some data)) ∧ net'.inputPipe stage = pipe ∧
      (∀ o, net'.outflow stage o = net.outflow stage o) ∧ net'.pieces = net.pieces ∧
      net.Elsewhere stage net' := by
  have hstep (net₁ : Network ends child)
      (h : net.read? size amount stage = some (some data, net₁)) :
      net.step? (.program stage amount) =
        some ((net₁.note stage size (some data)).goOn stage (.running (next (some data)))) := by
    simp [step?, hstage, proceed?, hrunning, hwish, h]
  cases stage with
  | zero =>
    let intake : Intake := { net.intake with pipe, taken := net.intake.taken ++ data }
    refine ⟨_, hstep (net.withIntake intake) ?_, by simp [goOn], rfl, fun _ => rfl, rfl, ?_⟩
    · simp only [inputPipe] at hopen hread
      simp [read?, Intake.read?, hopen, hread, intake]
    · exact ⟨fun i hi => by simp [goOn, note, withIntake, Function.update_of_ne hi],
        fun _ _ _ _ => rfl, rfl⟩
  | succ before =>
    let f : Outflow := { net.outflow before .stdout with pipe }
    refine ⟨_, hstep (net.withOutflow before .stdout f []) ?_, by simp [goOn], ?_, fun o => ?_, ?_,
      ?_⟩
    · simp only [inputPipe] at hopen hread
      simp [read?, Outflow.read?, hopen, hread, f]
    · simp [inputPipe, goOn, note, withOutflow, f]
    · simp [goOn, note, withOutflow]
    · simp [goOn, note, withOutflow]
    · refine ⟨fun i hi => by simp [goOn, note, withOutflow, Function.update_of_ne hi],
        fun i o hi ho => ?_, rfl⟩
      have hne : ¬(i = before ∧ o = .stdout) := fun h => ho ⟨by rw [h.1], h.2⟩
      simp [goOn, note, withOutflow, hne]

theorem withOutflow_self (net : Network ends child) (stage : Nat) (o : Output) :
    net.withOutflow stage o (net.outflow stage o) [] = net := by
  have houtflow : (fun i p => if i = stage ∧ p = o then net.outflow stage o else net.outflow i p) =
      net.outflow := by
    funext i p
    split
    · next heq => rw [heq.1, heq.2]
    · rfl
  simp [withOutflow, houtflow]

theorem withOutflow_withOutflow (net : Network ends child) (stage : Nat) (o : Output)
    (f g : Outflow) (brought more : List Bytes) :
    (net.withOutflow stage o f brought).withOutflow stage o g more =
      net.withOutflow stage o g (brought ++ more) := by
  simp only [withOutflow, List.map_append, List.append_assoc]
  congr 1
  funext i p
  split <;> rfl

theorem reaches_drained (hdrained : Ends.outlet? ends stage o = some .drained) {data : Bytes}
    (hstands : (net.outflow stage o).Stands data) :
    ∃ f, net.Reaches (net.withOutflow stage o f (data.map ([·]))) ∧ f.Stands [] := by
  induction data generalizing net with
  | nil =>
    refine ⟨net.outflow stage o, ?_, hstands⟩
    rw [List.map_nil, withOutflow_self]
    exact .refl net
  | cons b rest ih =>
    -- the pump takes one byte at a time
    let held : Outflow :=
      { net.outflow stage o with
        pipe := (net.outflow stage o).pipe.dropFront 1
        phase := .holding [b] }
    let freed : Outflow := { held with phase := .reading }
    have hread : net.step? (.pump (.drain stage o) 1) = some (net.withOutflow stage o held []) := by
      simp [step?, hdrained, Outflow.pump?, hstands.phase, Conduit.read?, hstands.content, held,
        Phase.onRead, Pump.chunkSize]
    have hwrite : (net.withOutflow stage o held []).step? (.pump (.drain stage o) 1) =
        some (net.withOutflow stage o freed [[b]]) := by
      simp [step?, hdrained, Outflow.pump?, held, freed, withOutflow_withOutflow]
    have hrest : ((net.withOutflow stage o freed [[b]]).outflow stage o).Stands rest := by
      rw [outflow_withOutflow_self]
      exact ⟨rfl, by simp [freed, held, Conduit.dropFront, hstands.content], hstands.readable⟩
    obtain ⟨g, hreaches, hempty⟩ := ih hrest
    rw [withOutflow_withOutflow] at hreaches
    exact ⟨g, .step hread (.step hwrite hreaches), hempty⟩

theorem reaches_finished (hdrained : Ends.outlet? ends stage o = some .drained)
    (hphase : (net.outflow stage o).phase = .reading)
    (hcontent : (net.outflow stage o).pipe.content = [])
    (hshut : (net.outflow stage o).pipe.writable = false) :
    ∃ f, net.Reaches (net.withOutflow stage o f []) ∧ f.phase = .finished := by
  let closing : Outflow := { net.outflow stage o with phase := .closing }
  let finished : Outflow :=
    { closing with
      pipe := closing.pipe.closeReading
      phase := .finished }
  have hread :
      net.step? (.pump (.drain stage o) 1) = some (net.withOutflow stage o closing []) := by
    simp [step?, hdrained, Outflow.pump?, hphase, Conduit.read?, hcontent, hshut, closing,
      Phase.onRead, Pump.chunkSize]
  have hclose : (net.withOutflow stage o closing []).step? (.pump (.drain stage o) 1) =
      some (net.withOutflow stage o finished []) := by
    simp [step?, hdrained, Outflow.pump?, closing, finished, withOutflow_withOutflow]
  exact ⟨finished, .step hread (.step hclose (.refl _)), rfl⟩

theorem reaches_fed {net : Network ends child} (hcarries : net.intake.Carries input)
    (htaken : net.intake.taken = []) (hopen : net.intake.pipe.readable = true)
    (hroom : input.length < net.intake.pipe.capacity.1) :
    ∃ intake, net.Reaches (net.withIntake intake) ∧ intake.phase = .finished ∧
      intake.pipe.content = input ∧ intake.pipe.writable = false ∧
      intake.pipe.readable = true := by
  have hconserved := hcarries.conserved hopen
  rw [htaken, List.nil_append] at hconserved
  -- each turn of the pump lowers what is left for it to do, and there is always room
  induction hwork : net.intake.work using Nat.strongRecOn generalizing net with
  | ind n ih =>
    cases hpump : net.intake.pump? 1 with
    | none =>
      have hphase : net.intake.phase = .finished := by
        rcases hcarries.of_pump?_eq_none hpump with hphase | ⟨-, hfull⟩
        · exact hphase
        · have hlength := congrArg List.length hconserved
          simp only [Conduit.room, List.length_append] at hfull hlength
          omega
      refine ⟨net.intake, .refl net, hphase, ?_, hcarries.finished_iff.1 hphase, hopen⟩
      simpa [Intake.coming, hphase] using hconserved
    | some intake =>
      obtain ⟨hcarries', hreadable, hlower⟩ := hcarries.pump hpump
      have hstep : net.step? (.pump .feed 1) = some (net.withIntake intake) := by
        simp [step?, hpump]
      obtain ⟨hsame, hcapacity⟩ := Intake.kept_of_pump? hpump
      have hopen' : intake.pipe.readable = true := hreadable.trans hopen
      have hconserved' := hcarries'.conserved hopen'
      rw [hsame, htaken, List.nil_append] at hconserved'
      have hroom' : input.length < (net.withIntake intake).intake.pipe.capacity.1 := by
        rwa [← hcapacity] at hroom
      obtain ⟨final, hreaches, hfinal⟩ := ih intake.work (hwork ▸ hlower) hcarries'
        (hsame.trans htaken) hopen' hroom' hconserved' rfl
      exact ⟨final, .step hstep hreaches, hfinal⟩

/-! ### One program after another -/

/-- The parts in which it comes out what a program writes at once to such an end: what leads to a
pump comes byte by byte. -/
def parts (target : Option OutputEnd) (data : Bytes) : List Bytes :=
  match target with
  | some (.file _) => [data]
  | some .drained => data.map ([·])
  | _ => []

section Functions

variable {size : Nat} {f : Nat → Bytes → Performance}
  {net : Network ends fun i => Child.ofFunction size (f i)} {x : Bytes} {status : Int}

theorem reaches_read (hstage : stage < ends.length)
    (hrunning : net.activity stage = .running (.reading []))
    (hcontent : (net.inputPipe stage).content = x)
    (hshut : (net.inputPipe stage).writable = false)
    (hopen : (net.inputPipe stage).readable = true) (hx : x.length ≤ size) :
    let p := f stage x
    ∃ net', net.Reaches net' ∧ net.Elsewhere stage net' ∧
      net'.activity stage =
        .running (.writing [(.stderr, p.stderr), (.stdout, p.stdout)] p.status) ∧
      (∀ o, net'.outflow stage o = net.outflow stage o) ∧ net'.pieces = net.pieces := by
  intro p
  have hend (u : Network ends fun i => Child.ofFunction size (f i))
      (hreading : u.activity stage = .running (.reading x))
      (hempty : (u.inputPipe stage).content = []) (hshut : (u.inputPipe stage).writable = false)
      (hopen : (u.inputPipe stage).readable = true) :
      ∃ net', u.Reaches net' ∧ u.Elsewhere stage net' ∧
        net'.activity stage =
          .running (.writing [(.stderr, p.stderr), (.stdout, p.stdout)] p.status) ∧
        (∀ o, net'.outflow stage o = u.outflow stage o) ∧ net'.pieces = u.pieces := by
    have hread : (u.inputPipe stage).read? (size + 1) 1 = some ([], u.inputPipe stage) := by
      simp [Conduit.read?, hempty, hshut]
    obtain ⟨net', hstep, hactivity, -, houtflow, hpieces, helse⟩ :=
      step_read hstage hreading rfl hopen hread
    exact ⟨net', .step hstep (.refl net'), helse, hactivity, houtflow, hpieces⟩
  cases x with
  | nil => exact hend net hrunning hcontent hshut hopen
  | cons b rest =>
    have hread : (net.inputPipe stage).read? (size + 1) (b :: rest).length =
        some (b :: rest, (net.inputPipe stage).dropFront (b :: rest).length) := by
      have hshare : min (max (b :: rest).length 1) (size + 1) = (b :: rest).length := by
        simp only [List.length_cons] at hx ⊢
        omega
      simp only [Conduit.read?, hcontent, hshare, List.take_length]
      simp
    obtain ⟨u, hstep, hactivity, hpipe, houtflow, hpieces, helse⟩ :=
      step_read hstage hrunning rfl hopen hread
    have hempty : (u.inputPipe stage).content = [] := by
      rw [hpipe]
      simp [Conduit.dropFront, hcontent]
    obtain ⟨net', hreaches, helse', hwriting, houtflow', hpieces'⟩ :=
      hend u hactivity hempty (by rwa [hpipe]) (by rwa [hpipe])
    exact ⟨net', .step hstep hreaches, helse.trans helse', hwriting,
      fun o => (houtflow' o).trans (houtflow o), hpieces'.trans hpieces⟩

theorem step_write {data : Bytes} {rest : List (Output × Bytes)} (hstage : stage < ends.length)
    (hrunning : net.activity stage = .running (.writing ((o, data) :: rest) status))
    {net' : Network ends fun i => Child.ofFunction size (f i)}
    (hwrite : net.write? stage o data amount = some (some data.length, net')) :
    net.step? (.program stage amount) =
      some (net'.goOn stage (.running (.writing rest status))) := by
  simp only [step?, hstage, ↓reduceIte, proceed?, hrunning]
  refine Option.map_eq_some_iff.2 ⟨(some data.length, net'), hwrite, ?_⟩
  simp

theorem reaches_written {data : Bytes} {rest : List (Output × Bytes)} (hstage : stage < ends.length)
    (hrunning : net.activity stage = .running (.writing ((o, data) :: rest) status))
    (hidle : (net.outflow stage o).Idle size) (hdata : data.length ≤ size) :
    let target := Ends.outlet? ends stage o
    ∃ g, net.Reaches ((net.withOutflow stage o g (parts target data)).goOn stage
        (.running (.writing rest status))) ∧
      g.Stands (if target = some .pipe then data else []) := by
  obtain ⟨g, hconduit, hstands⟩ := hidle.write hdata
  obtain ⟨target, htarget⟩ := Ends.exists_outlet? hstage o
  rw [htarget]
  cases target with
  | file handle =>
    let stored : Outflow :=
      { net.outflow stage o with written := (net.outflow stage o).written ++ data }
    have hwrite : net.write? stage o data 0 =
        some (some data.length, net.withOutflow stage o stored [data]) := by
      simp [write?, htarget, hidle.writable, stored]
    exact ⟨stored, .step (step_write hstage hrunning hwrite) (.refl _), hidle.phase, hidle.content,
      hidle.readable⟩
  | pipe =>
    have hwrite : net.write? stage o data data.length =
        some (some data.length, net.withOutflow stage o g []) := by
      simp [write?, htarget, hconduit]
    exact ⟨g, .step (step_write hstage hrunning hwrite) (.refl _), hstands⟩
  | drained =>
    have hwrite : net.write? stage o data data.length =
        some (some data.length, net.withOutflow stage o g []) := by
      simp [write?, htarget, hconduit]
    let u := (net.withOutflow stage o g []).goOn stage (.running (.writing rest status))
    have houtflow : u.outflow stage o = g := by simp [u, goOn]
    obtain ⟨g', hreaches, hempty⟩ := reaches_drained htarget (houtflow ▸ hstands)
    have hall : u.withOutflow stage o g' (data.map ([·])) =
        (net.withOutflow stage o g' ([] ++ data.map ([·]))).goOn stage
          (.running (.writing rest status)) := by
      rw [← withOutflow_withOutflow]
      rfl
    rw [hall] at hreaches
    exact ⟨g', .step (step_write hstage hrunning hwrite) hreaches, hempty⟩

/-- A program that writes goes on with what is behind it, and this has come out, or stands in the
pipe that the next program reads. -/
theorem reaches_write {data : Bytes} {rest : List (Output × Bytes)} (hstage : stage < ends.length)
    (hrunning : net.activity stage = .running (.writing ((o, data) :: rest) status))
    (hidle : (net.outflow stage o).Idle size) (hdata : data.length ≤ size) :
    let target := Ends.outlet? ends stage o
    ∃ net', net.Reaches net' ∧ net.Elsewhere stage net' ∧
      net'.activity stage = .running (.writing rest status) ∧
      (∀ p, p ≠ o → net'.outflow stage p = net.outflow stage p) ∧
      net'.pieces = net.pieces ++ (parts target data).map (⟨stage, o, ·⟩) ∧
      (net'.outflow stage o).Stands (if target = some .pipe then data else []) := by
  intro target
  obtain ⟨g, hreaches, hstands⟩ := reaches_written hstage hrunning hidle hdata
  refine ⟨_, hreaches, (elsewhere_withOutflow ..).trans (elsewhere_goOn ..), by simp [goOn],
    fun p hp => by simp [goOn, withOutflow, hp], rfl, ?_⟩
  have hself : ((net.withOutflow stage o g (parts target data)).goOn stage
      (.running (.writing rest status))).outflow stage o = g := by simp [goOn]
  rwa [hself]

theorem step_exit (hstage : stage < ends.length)
    (hrunning : net.activity stage = .running (.writing [] status)) :
    ∃ net', net.step? (.program stage 0) = some net' ∧ net.Elsewhere stage net' ∧
      net'.activity stage = .exited status ∧
      (∀ o, net'.outflow stage o = (net.outflow stage o).shut) ∧ net'.pieces = net.pieces := by
  let gone := (net.goOn stage (.exited status)).shutInput stage
  have hgone : net.Elsewhere stage gone :=
    (elsewhere_goOn net stage (.exited status)).trans (elsewhere_shutInput _ stage)
  have houtflow (o : Output) : gone.outflow stage o = net.outflow stage o :=
    outflow_shutInput _ stage o
  refine ⟨(gone.shutOutput stage .stdout).shutOutput stage .stderr, ?_, ?_, ?_, fun o => ?_, ?_⟩
  · simp only [step?, hstage, ↓reduceIte, proceed?, hrunning]
    rfl
  · exact (hgone.trans (elsewhere_withOutflow ..)).trans (elsewhere_withOutflow ..)
  · simp [gone, goOn]
  · cases o <;> simp [shutOutput, withOutflow, houtflow]
  · simp [shutOutput, withOutflow, gone, pieces_shutInput, goOn]

/-- The pump at one of the outputs comes to an end, if there is one. -/
theorem reaches_emptied (stage : Nat) (o : Output)
    (hphase : (net.outflow stage o).phase = .reading)
    (hcontent : Ends.outlet? ends stage o = some .drained → (net.outflow stage o).pipe.content = [])
    (hshut : (net.outflow stage o).pipe.writable = false) :
    ∃ net', net.Reaches net' ∧ net.Elsewhere stage net' ∧
      net'.activity stage = net.activity stage ∧
      (∀ p, p ≠ o → net'.outflow stage p = net.outflow stage p) ∧ net'.pieces = net.pieces ∧
      (Ends.outlet? ends stage o = some .drained → (net'.outflow stage o).phase = .finished) ∧
      (Ends.outlet? ends stage o ≠ some .drained →
        net'.outflow stage o = net.outflow stage o) := by
  by_cases hdrained : Ends.outlet? ends stage o = some .drained
  · obtain ⟨g, hreaches, hfinished⟩ := reaches_finished hdrained hphase (hcontent hdrained) hshut
    refine ⟨_, hreaches, elsewhere_withOutflow .., rfl, fun p hp => ?_, List.append_nil _,
      fun _ => ?_, fun hne => absurd hdrained hne⟩
    · exact outflow_withOutflow_of_ne fun h => hp h.2
    · rwa [outflow_withOutflow_self]
  · exact ⟨net, .refl net, .refl stage net, rfl, fun _ _ => rfl, rfl, fun h => absurd h hdrained,
      fun _ => rfl⟩

/-- What a program with these ends brings out that makes this of its input. -/
def stagePieces (ends : List Ends) (stage : Nat) (p : Performance) : List Piece :=
  (parts (Ends.outlet? ends stage .stderr) p.stderr).map (⟨stage, .stderr, ·⟩) ++
    (parts (Ends.outlet? ends stage .stdout) p.stdout).map (⟨stage, .stdout, ·⟩)

/-- A program alone, from its start to its exit. -/
theorem reaches_gone (hstage : stage < ends.length)
    (hrunning : net.activity stage = .running (.reading []))
    (hidle : ∀ o, (net.outflow stage o).Idle size)
    (hcontent : (net.inputPipe stage).content = x)
    (hshut : (net.inputPipe stage).writable = false)
    (hopen : (net.inputPipe stage).readable = true) (hx : x.length ≤ size)
    (hsize : ∀ o, ((f stage x).written o).length ≤ size) :
    let p := f stage x
    ∃ net', net.Reaches net' ∧ net.Elsewhere stage net' ∧ net'.activity stage = .exited p.status ∧
      (∀ o, (net'.outflow stage o).Stands
          (if Ends.outlet? ends stage o = some .pipe then p.written o else []) ∧
        (net'.outflow stage o).pipe.writable = false) ∧
      net'.pieces = net.pieces ++ stagePieces ends stage p := by
  intro p
  obtain ⟨n₁, h₁, e₁, hwriting, hsame₁, hpieces₁⟩ :=
    reaches_read hstage hrunning hcontent hshut hopen hx
  obtain ⟨n₂, h₂, e₂, hwriting₂, hsame₂, hpieces₂, hstderr⟩ :=
    reaches_write hstage hwriting (hsame₁ .stderr ▸ hidle .stderr) (hsize .stderr)
  have hidle₂ : (n₂.outflow stage .stdout).Idle size := by
    rw [hsame₂ .stdout nofun, hsame₁]
    exact hidle .stdout
  obtain ⟨n₃, h₃, e₃, hwriting₃, hsame₃, hpieces₃, hstdout⟩ :=
    reaches_write hstage hwriting₂ hidle₂ (hsize .stdout)
  obtain ⟨n₄, hexit, e₄, hexited, hshut₄, hpieces₄⟩ := step_exit hstage hwriting₃
  rw [← hsame₃ .stderr nofun] at hstderr
  refine ⟨n₄, h₁.trans (h₂.trans (h₃.trans (.step hexit (.refl n₄)))),
    e₁.trans (e₂.trans (e₃.trans e₄)), hexited, fun o => ?_, ?_⟩
  · rw [hshut₄]
    cases o with
    | stdout => exact ⟨⟨hstdout.phase, hstdout.content, hstdout.readable⟩, rfl⟩
    | stderr => exact ⟨⟨hstderr.phase, hstderr.content, hstderr.readable⟩, rfl⟩
  · rw [hpieces₄, hpieces₃, hpieces₂, hpieces₁, List.append_assoc]
    rfl

/-- A program alone, from its start until its pumps have come to an end. -/
theorem reaches_exited (hstage : stage < ends.length)
    (hrunning : net.activity stage = .running (.reading []))
    (hidle : ∀ o, (net.outflow stage o).Idle size)
    (hcontent : (net.inputPipe stage).content = x)
    (hshut : (net.inputPipe stage).writable = false)
    (hopen : (net.inputPipe stage).readable = true) (hx : x.length ≤ size)
    (hsize : ∀ o, ((f stage x).written o).length ≤ size) :
    ∃ net', net.Reaches net' ∧ net.Elsewhere stage net' ∧
      net'.activity stage = .exited (f stage x).status ∧
      (∀ o, Ends.outlet? ends stage o = some .drained → (net'.outflow stage o).phase = .finished) ∧
      (Ends.outlet? ends stage .stdout = some .pipe →
        (net'.outflow stage .stdout).pipe.content = (f stage x).stdout ∧
        (net'.outflow stage .stdout).pipe.writable = false ∧
        (net'.outflow stage .stdout).pipe.readable = true) ∧
      net'.pieces = net.pieces ++ stagePieces ends stage (f stage x) := by
  obtain ⟨n₁, h₁, e₁, hexited, hstands, hpieces₁⟩ :=
    reaches_gone hstage hrunning hidle hcontent hshut hopen hx hsize
  have hempty (o : Output) (hdrained : Ends.outlet? ends stage o = some .drained) :
      (n₁.outflow stage o).pipe.content = [] := (hstands o).1.content.trans (by simp [hdrained])
  obtain ⟨n₂, h₂, e₂, hactivity₂, hsame₂, hpieces₂, hfinished₂, -⟩ := reaches_emptied stage .stderr
    (hstands .stderr).1.phase (hempty .stderr) (hstands .stderr).2
  have hstdout := hsame₂ .stdout nofun
  obtain ⟨n₃, h₃, e₃, hactivity₃, hsame₃, hpieces₃, hfinished₃, hkept₃⟩ :=
    reaches_emptied stage .stdout (hstdout ▸ (hstands .stdout).1.phase)
      (hstdout ▸ hempty .stdout) (hstdout ▸ (hstands .stdout).2)
  refine ⟨n₃, h₁.trans (h₂.trans h₃), e₁.trans (e₂.trans e₃), ?_, fun o hdrained => ?_,
    fun hpipe => ?_, ?_⟩
  · rw [hactivity₃, hactivity₂, hexited]
  · cases o with
    | stdout => exact hfinished₃ hdrained
    | stderr =>
      rw [hsame₃ .stderr nofun]
      exact hfinished₂ hdrained
  · obtain ⟨hreading, hclosed⟩ := hstands .stdout
    rw [hkept₃ (by rw [hpipe]; nofun), hstdout]
    exact ⟨hreading.content.trans (if_pos hpipe), hclosed, hreading.readable⟩
  · rw [hpieces₃, hpieces₂, hpieces₁]

/-- What each program reads, and what it makes of it. -/
def streams (f : Nat → Bytes → Performance) (input : Bytes) : Nat → Bytes
  | 0 => input
  | i + 1 => (f i (streams f input i)).stdout

def makes (f : Nat → Bytes → Performance) (input : Bytes) (i : Nat) : Performance :=
  f i (streams f input i)

/-- All programs before this one have come to an end, it may read all that is there for it, and no
other has begun. -/
structure Ready (input : Bytes) (i : Nat)
    (net : Network ends fun i => Child.ofFunction size (f i)) : Prop where
  exited : ∀ j < i, net.activity j = .exited (makes f input j).status
  drained : ∀ j < i, ∀ o, Ends.outlet? ends j o = some .drained →
    (net.outflow j o).phase = .finished
  running : ∀ j, i ≤ j → net.activity j = .running (.reading [])
  idle : ∀ j, i ≤ j → ∀ o, (net.outflow j o).Idle size
  fed : net.intake.phase = .finished
  content : i < ends.length → (net.inputPipe i).content = streams f input i
  writable : i < ends.length → (net.inputPipe i).writable = false
  readable : i < ends.length → (net.inputPipe i).readable = true
  pieces_eq : net.pieces = (List.range i).flatMap fun j => stagePieces ends j (makes f input j)

theorem Ready.next (h : net.Ready input i) (hline : Ends.InLine ends) (hi : i < ends.length)
    (hstream : (streams f input i).length ≤ size)
    (hmakes : ∀ o, ((makes f input i).written o).length ≤ size) :
    ∃ net', net.Reaches net' ∧ net'.Ready input (i + 1) := by
  obtain ⟨net', hreaches, helse, hexited, hfinished, hpipe, hpieces⟩ :=
    reaches_exited hi (h.running i (Nat.le_refl i)) (h.idle i (Nat.le_refl i)) (h.content hi)
      (h.writable hi) (h.readable hi) hstream hmakes
  refine ⟨net', hreaches, fun j hj => ?_, fun j hj o hd => ?_, fun j hj => ?_, fun j hj o => ?_,
    helse.fed.trans h.fed, fun hn => ?_, fun hn => ?_, fun hn => ?_, ?_⟩
  · rcases Nat.lt_succ_iff_lt_or_eq.1 hj with hlt | rfl
    · rw [helse.activity j (Nat.ne_of_lt hlt)]
      exact h.exited j hlt
    · exact hexited
  · rcases Nat.lt_succ_iff_lt_or_eq.1 hj with hlt | rfl
    · -- the pipe between two programs has no pump
      rw [helse.outflow j o (Nat.ne_of_lt hlt)]
      · exact h.drained j hlt o hd
      · rintro ⟨rfl, rfl⟩
        cases hd.symm.trans (hline.outlet?_eq_pipe hi)
    · exact hfinished o hd
  · rw [helse.activity j (by omega)]
    exact h.running j (by omega)
  · rw [helse.outflow j o (by omega) (by omega)]
    exact h.idle j (by omega) o
  · exact (hpipe (hline.outlet?_eq_pipe hn)).1
  · exact (hpipe (hline.outlet?_eq_pipe hn)).2.1
  · exact (hpipe (hline.outlet?_eq_pipe hn)).2.2
  · rw [hpieces, h.pieces_eq, List.range_succ, List.flatMap_append, List.flatMap_singleton]
    rfl

theorem reaches_ready (hline : Ends.InLine ends) (feed : Capacity)
    (pipes : Nat → Output → Capacity) (hfeed : input.length < feed.1)
    (hpipes : ∀ j o, size ≤ (pipes j o).1)
    (hstreams : ∀ i < ends.length, (streams f input i).length ≤ size)
    (hmakes : ∀ i < ends.length, ∀ o, ((makes f input i).written o).length ≤ size) :
    ∀ i ≤ ends.length, ∃ net, (start ends (fun i => Child.ofFunction size (f i)) input feed
      pipes).Reaches net ∧ net.Ready input i := by
  intro i hi
  induction i with
  | zero =>
    let first := start ends (fun i => Child.ofFunction size (f i)) input feed pipes
    have hwhole : first.Whole input := whole_start input feed pipes
    obtain ⟨intake, hreaches, hphase, hcontent, hshut, hopen⟩ :=
      reaches_fed hwhole.feeds.carries rfl rfl hfeed
    refine ⟨first.withIntake intake, hreaches, nofun, nofun, fun _ _ => rfl,
      fun j _ o => ⟨rfl, rfl, rfl, rfl, hpipes j o⟩, hphase, fun _ => hcontent, fun _ => hshut,
      fun _ => hopen, rfl⟩
  | succ i ih =>
    obtain ⟨net, hreaches, hready⟩ := ih (Nat.le_of_succ_le hi)
    obtain ⟨net', hreaches', hready'⟩ := hready.next hline hi (hstreams i hi) (hmakes i hi)
    exact ⟨net', hreaches.trans hreaches', hready'⟩

theorem Ready.done (h : net.Ready input ends.length) : net.Done where
  exited i hi := ⟨_, h.exited i hi⟩
  fed := h.fed
  drained i o hd := by
    obtain ⟨e, he, -⟩ := Option.map_eq_some_iff.1 hd
    exact h.drained i (List.getElem?_eq_some_iff.1 he).1 o hd

/-- Programs that are functions come to an end in some order of turns, with pipes in which there is
room for all that they write. -/
theorem exists_ready (hline : Ends.InLine ends) (f : Nat → Bytes → Performance) (input : Bytes) :
    ∃ size feed pipes, ∃ net : Network ends fun i => Child.ofFunction size (f i),
      (start ends (fun i => Child.ofFunction size (f i)) input feed pipes).Reaches net ∧
        net.Ready input ends.length := by
  let need (i : Nat) : Nat := (streams f input i).length +
    ((makes f input i).stdout.length + (makes f input i).stderr.length)
  let size := (Finset.range ends.length).sup need
  have hneed (i : Nat) (hi : i < ends.length) : need i ≤ size :=
    Finset.le_sup (Finset.mem_range.2 hi)
  refine ⟨size, ⟨input.length + 1, Nat.succ_pos _⟩, fun _ _ => ⟨size + 1, Nat.succ_pos _⟩, ?_⟩
  refine reaches_ready hline _ _ (Nat.lt_succ_self _) (fun _ _ => Nat.le_succ _)
    (fun i hi => ?_) (fun i hi o => ?_) _ (Nat.le_refl _)
  · have hall := hneed i hi
    simp only [need] at hall
    omega
  · have hall := hneed i hi
    simp only [need] at hall
    cases o <;> simp only [Performance.written] <;> omega

end Functions

end Network

/-! ### A system of functions -/

section System

variable {α : Type} {start : Invocation → Except SystemError α} {perform : α → Bytes → Performance}
  {joined : List (α × Ends)} {input : Bytes}

/-- The program of a number. -/
def performer (perform : α → Bytes → Performance) (joined : List (α × Ends)) (i : Nat) :
    Bytes → Performance :=
  match joined[i]? with
  | some (process, _) => perform process
  | none => fun _ => ⟨[], [], 0⟩

theorem performer_eq {i : Nat} {process : α} {e : Ends} (h : joined[i]? = some (process, e)) :
    performer perform joined i = perform process := by
  simp only [performer, h]

/-- A system whose programs are certain functions, and take their turns one after another. -/
def Programs.ofFunctions (start : Invocation → Except SystemError α)
    (perform : α → Bytes → Performance) : Programs where
  Process := α
  start i _ := start i
  run joined input files :=
    let ends := joined.map (·.2)
    let made := Network.makes (performer perform joined) input
    let pieces := (List.range ends.length).flatMap fun i => Network.stagePieces ends i (made i)
    { output := pieces.filter (·.end? ends = some .drained)
      statuses := (List.range ends.length).map fun i => (made i).status
      files := Piece.store ends (fun _ h => h) files pieces }

theorem Programs.sideBySide_ofFunctions (start : Invocation → Except SystemError α)
    (perform : α → Bytes → Performance) (held : List Place)
    {joined : List ((ofFunctions start perform).Process × Ends)}
    (hline : Ends.InLine (joined.map (·.2))) (input : Bytes) (files : FileSystem) :
    let ends := joined.map (·.2)
    (ofFunctions start perform).SideBySide perform held joined input files
      ((List.range ends.length).flatMap fun i =>
        Network.stagePieces ends i (Network.makes (performer perform joined) input i)) := by
  obtain ⟨size, feed, pipes, net, ⟨moves, hrun⟩, hready⟩ :=
    Network.exists_ready hline (performer perform joined) input
  refine ⟨⟨_, net, fun i process e hjoined => ?_, ⟨feed, pipes, moves, hrun⟩, hready.done,
    hready.pieces_eq, fun i hi => ?_⟩, rfl, fun _ _ => rfl⟩
  · have hcomputes {g : Bytes → Performance} (hg : performer perform joined i = g) :
        (Child.ofFunction size (performer perform joined i)).Computes g := by
      subst hg
      exact ReadAll.computes_ofFunction size _
    exact hcomputes (performer_eq hjoined)
  · rw [← List.length_map (·.2)] at hi
    have hstatus : ((List.range (joined.map (·.2)).length).map fun i =>
        (Network.makes (performer perform joined) input i).status)[i]? =
          some (Network.makes (performer perform joined) input i).status := by
      rw [List.getElem?_map, List.getElem?_range hi, Option.map_some]
    rw [hready.exited i hi]
    exact congrArg (fun s => Activity.exited (s.getD 0)) hstatus.symm

theorem Programs.actAs_ofFunctions (start : Invocation → Except SystemError α)
    (perform : α → Bytes → Performance) (held : List Place) (files : FileSystem) :
    (ofFunctions start perform).ActAs perform held files where
  launch _ _ _ := rfl
  run _ input fs hline _ :=
    ⟨_, fun places => sideBySide_ofFunctions start perform places hline input fs⟩

end System

end PipelineShell
