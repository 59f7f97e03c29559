import PipelineShell.Execution.InTurn
import PipelineShell.Proofs.Execution.Deed
import PipelineShell.Proofs.Execution.Line
import PipelineShell.Proofs.Stream.Pump

/-!
# Stages at work

A stage on its wiring does what it does alone: its pumps and channels carry the bytes unchanged.
-/

namespace PipelineShell
open Scene (Step Steps)

/-! ### Reading -/

theorem take_bounded (n : Nat) (left : Bytes) :
    ∀ m, some n = some m → (left.take n).length ≤ m := by
  intro m hm
  rw [Option.some.injEq] at hm
  rw [← hm]
  exact List.length_take_le n left

theorem answers_take (n : Nat) (left : Bytes) :
    Answers (some n) (left.take n) left (left.drop n) := by
  refine ⟨List.take_append_drop n left, take_bounded n left, by simp, ?_⟩
  intro hn h
  have hne : n ≠ 0 := by simpa using hn
  exact (List.take_eq_nil_iff.1 h).resolve_left hne

namespace Channel

theorem answers_readAll (c : Channel) :
    Answers none c.readAll.1 c.content c.readAll.2.content := by
  rw [readAll_eq]
  refine ⟨by simp [content], by simp, by simp [content], fun _ h => h⟩

theorem answers_readSome (c : Channel) (n : Nat) :
    Answers (some n) (c.readSome (some n)).1 c.content (c.readSome (some n)).2.content := by
  refine ⟨c.content_readSome _, take_bounded n _, by simp, ?_⟩
  intro hn h
  have hpos : 0 < n := Nat.pos_of_ne_zero (by simpa using hn)
  exact c.content_of_readSome_eq_nil hpos h

end Channel

/-- What the stage before has written, if there is one. -/
def Inlet.before : Inlet → Option Bytes
  | .session => none
  | .channel c => some c.content

/-- What a stage reads, by what the stage before has written. A program that comes first has
nothing to read. -/
def Stage.feed : Stage → Option Bytes → Feed
  | _, some data => .bytes data
  | .builtin _ _, none => .session
  | .external _ _, none => .bytes []

/-- The channel that is read from, if it is one, has been closed. -/
def Inlet.Finished (source : Inlet) : Prop := ∀ c ∈ source.channels, c.closed = true

def Inlet.feed : Inlet → Feed
  | .session => .session
  | .channel c => .bytes c.content

variable {base : Text} {builtins : List Text}

theorem Inlet.read_step (source : Inlet) (size : Option Nat) (s : State) (sink : Option Outlet)
    (errors : Outlet) :
    Step base builtins (.read size (source.read size s).1) ⟨source.feed, sink, errors, s⟩
      ⟨(source.read size s).2.1.feed, sink, errors, (source.read size s).2.2⟩ := by
  cases source with
  | session =>
    cases size with
    | none => exact .readSession ⟨by simp [Inlet.read, State.takeInput], by simp, by simp,
        fun _ h => h⟩
    | some n => exact .readSession (answers_take n s.session.stdin)
  | channel c =>
    cases size with
    | none => exact .readBytes c.answers_readAll
    | some n => exact .readBytes (c.answers_readSome n)

theorem Inlet.read_finished {source : Inlet} (h : source.Finished) (size : Option Nat) (s : State) :
    (source.read size s).2.1.Finished := by
  cases source with
  | session => cases size <;> exact fun c hc => nomatch hc
  | channel c =>
    have hc : c.closed = true := h c (List.mem_singleton_self c)
    cases size with
    | none => exact fun d hd => by rw [List.mem_singleton.1 hd]; exact hc
    | some n =>
      intro d hd
      rw [List.mem_singleton.1 hd]
      exact c.closed_refill.trans hc

def Wiring.scene (w : Wiring) (s : State) : Scene := ⟨w.source.feed, some w.sink, w.errors, s⟩

namespace Behaviour

/-- What a behaviour does when it is followed, whichever way it ends. What it writes last may be
lost. -/
def deeds (base : Text) (builtins : List Text) : Behaviour → Wiring → State → List Deed
  | .done _, _, _ | .fail _, _, _ => []
  | .read size next, ⟨source, sink, errors⟩, s =>
    let (data, source, s) := source.read size s
    .read size data :: (next data).deeds base builtins ⟨source, sink, errors⟩ s
  | .write data next, w, s =>
    match w.sink.write data s with
    | .error _ => if w.sink.isOpen then [.write data] else []
    | .ok (sink, s) => .write data :: next.deeds base builtins { w with sink } s
  | .complain data next, w, s =>
    match w.errors.write data s with
    | .error _ => if w.errors.isOpen then [.complain data] else []
    | .ok (errors, s) => .complain data :: next.deeds base builtins { w with errors } s
  | .look next, w, s =>
    let view : View := ⟨s.session, s.files, base, builtins⟩
    .look view :: (next view).deeds base builtins w s
  | .enter directory next, w, s =>
    .enter directory ::
      next.deeds base builtins w { s with session := s.session.enter directory }
  | .remember entries next, w, s =>
    .remember entries ::
      next.deeds base builtins w { s with session := s.session.remember entries }

theorem steps_deeds (b : Behaviour) {w w' : Wiring} {s s' : State} {ended : Ended}
    (h : b.run base builtins w s = (ended, w', s')) :
    Steps base builtins (b.deeds base builtins w s) (w.scene s) (w'.scene s') ∧
      (w.source.Finished → w'.source.Finished) := by
  induction b generalizing w s with
  | done status =>
    simp only [run, Prod.mk.injEq] at h
    obtain ⟨-, rfl, rfl⟩ := h
    exact ⟨.nil _, id⟩
  | fail failure =>
    simp only [run, Prod.mk.injEq] at h
    obtain ⟨-, rfl, rfl⟩ := h
    exact ⟨.nil _, id⟩
  | read size next ih =>
    obtain ⟨source, sink, errors⟩ := w
    rw [run] at h
    obtain ⟨hsteps, hfin⟩ := ih _ h
    exact ⟨.cons (source.read_step size s sink errors) hsteps,
      fun hs => hfin (Inlet.read_finished hs size s)⟩
  | write data next ih =>
    rw [run] at h
    rw [deeds]
    cases hw : w.sink.write data s with
    | error refusal =>
      simp only [hw, Prod.mk.injEq] at h
      obtain ⟨-, rfl, rfl⟩ := h
      refine ⟨?_, id⟩
      rcases Outlet.refused_of_write hw with ⟨hopen, hput⟩ | ⟨hclosed, hsame⟩
      · simp only [hopen, ↓reduceIte]
        exact .cons (.write hput) (.nil _)
      · simp only [hclosed, Bool.false_eq_true, ↓reduceIte, hsame]
        exact .nil _
    | ok out =>
      rw [hw] at h
      obtain ⟨hsteps, hfin⟩ := ih h
      exact ⟨.cons (.write (.taken hw)) hsteps, hfin⟩
  | complain data next ih =>
    rw [run] at h
    rw [deeds]
    cases hw : w.errors.write data s with
    | error refusal =>
      simp only [hw, Prod.mk.injEq] at h
      obtain ⟨-, rfl, rfl⟩ := h
      refine ⟨?_, id⟩
      rcases Outlet.refused_of_write hw with ⟨hopen, hput⟩ | ⟨hclosed, hsame⟩
      · simp only [hopen, ↓reduceIte]
        exact .cons (.complain hput) (.nil _)
      · simp only [hclosed, Bool.false_eq_true, ↓reduceIte, hsame]
        exact .nil _
    | ok out =>
      rw [hw] at h
      obtain ⟨hsteps, hfin⟩ := ih h
      exact ⟨.cons (.complain (.taken hw)) hsteps, hfin⟩
  | look next ih =>
    rw [run] at h
    obtain ⟨hsteps, hfin⟩ := ih _ h
    exact ⟨.cons .look hsteps, hfin⟩
  | enter directory next ih =>
    rw [run] at h
    obtain ⟨hsteps, hfin⟩ := ih h
    exact ⟨.cons .enter hsteps, hfin⟩
  | remember entries next ih =>
    rw [run] at h
    obtain ⟨hsteps, hfin⟩ := ih h
    exact ⟨.cons .remember hsteps, hfin⟩

theorem does_deeds (b : Behaviour) {w w' : Wiring} {s s' : State} {status : Int}
    (h : b.run base builtins w s = (.returned status, w', s')) :
    b.Does (b.deeds base builtins w s) status := by
  induction b generalizing w s with
  | done st =>
    simp only [run, Prod.mk.injEq, Ended.returned.injEq] at h
    rw [h.1]
    exact .done status
  | fail failure => simp [run] at h
  | read size next ih =>
    obtain ⟨source, sink, errors⟩ := w
    exact .read _ (ih _ h)
  | write data next ih =>
    rw [run] at h
    rw [deeds]
    cases hw : w.sink.write data s with
    | error refusal => simp [hw] at h
    | ok out =>
      rw [hw] at h
      exact .write (ih h)
  | complain data next ih =>
    rw [run] at h
    rw [deeds]
    cases hw : w.errors.write data s with
    | error refusal => simp [hw] at h
    | ok out =>
      rw [hw] at h
      exact .complain (ih h)
  | look next ih => exact .look _ (ih _ h)
  | enter directory next ih => exact .enter (ih h)
  | remember entries next ih => exact .remember (ih h)

theorem does_of_run (b : Behaviour) {w w' : Wiring} {s s' : State} {status : Int}
    (h : b.run base builtins w s = (.returned status, w', s')) :
    ∃ ds : List Deed, b.Does ds status ∧ Steps base builtins ds (w.scene s) (w'.scene s') ∧
      (w.source.Finished → w'.source.Finished) :=
  ⟨_, b.does_deeds h, b.steps_deeds h⟩

end Behaviour

/-! ### Delivering -/

namespace Outlet

/-- Pieces are put to an outlet one after another. -/
inductive Puts : List Bytes → Outlet × State → Outlet × State → Prop
  | nil (target : Outlet × State) : Puts [] target target
  | cons {piece : Bytes} {pieces : List Bytes} {sink sink' : Outlet} {s s' : State}
      {target : Outlet × State} (put : Put piece s sink sink' s')
      (rest : Puts pieces (sink', s') target) : Puts (piece :: pieces) (sink, s) target

theorem Puts.isOpen {pieces : List Bytes} {t t' : Outlet × State} (h : Puts pieces t t')
    (ht : t.1.isOpen = true) : t'.1.isOpen = true := by
  induction h with
  | nil t => exact ht
  | cons put _ ih => exact ih put.wrote.isOpen

theorem Puts.accepts {pieces : List Bytes} {t t' : Outlet × State} (h : Puts pieces t t')
    (ht : t.1.isOpen = true) : t'.1.accepts = t.1.accepts := by
  induction h with
  | nil t => rfl
  | cons put _ ih => exact (ih put.wrote.isOpen).trans (put.wrote.accepts ht)

theorem pumpSink_steady : pumpSink.Steady fun target => target.1.accepts = true := by
  intro data target h
  obtain ⟨sink', s', hw⟩ := write_of_accepts h data target.2
  refine ⟨(sink', s'), (sink', s'), by simp [pumpSink, hw], rfl, ?_⟩
  exact ((wrote_of_write hw).accepts (isOpen_of_accepts h)).trans h

theorem write_of_pumpSink {data : Bytes} {target target' : Outlet × State}
    (h : pumpSink.write data target = (target', true)) :
    target.1.write data target.2 = .ok (target'.1, target'.2) := by
  simp only [pumpSink] at h
  split at h
  · next out hw =>
    rw [Prod.mk.injEq] at h
    rw [hw, h.1]
  · simp at h

theorem puts_of_takes {pieces : List Bytes} {t t' : Outlet × State}
    (h : pumpSink.Takes pieces t t') : Puts pieces t t' := by
  induction h with
  | nil t => exact .nil t
  | cons hw hf _ ih =>
    cases hf
    exact .cons (.taken (write_of_pumpSink hw)) ih

theorem relay_full {h : Handle} (hfull : h.full = true) (data : Bytes) (s : State) :
    ∃ lost, (Outlet.file h).relay data s = (.file { h with lost }, s) := by
  have hwrite (data : Bytes) (target : Outlet × State)
      (ht : ∃ lost, target = (.file { h with lost }, s)) :
      ∃ lost, (pumpSink.write data target).1 = (.file { h with lost }, s) := by
    obtain ⟨lost, rfl⟩ := ht
    by_cases hrefuses : ({ h with lost } : Handle).refuses data = true
    · exact ⟨_, by simp only [pumpSink, write, hrefuses, ↓reduceIte]; rfl⟩
    · refine ⟨lost, ?_⟩
      have hkept : ({ h with lost } : Handle).write data s.files = ({ h with lost }, s.files) :=
        if_pos hfull
      simp only [pumpSink, write, if_neg hrefuses, hkept]
  exact Pump.copy_keeps (P := fun target : Outlet × State =>
    ∃ lost, target = (.file { h with lost }, s)) hwrite (fun _ ht => ht) (Channel.ofBytes data)
    ⟨h.lost, rfl⟩

theorem relay_puts {sink : Outlet} (h : sink.isOpen = true) (data : Bytes) (s : State) :
    ∃ pieces : List Bytes, pieces.flatten = data ∧ Puts pieces (sink, s) (sink.relay data s) := by
  by_cases haccepts : sink.accepts = true
  · have hs : (fun target : Outlet × State => target.1.accepts = true) (sink, s) := haccepts
    obtain ⟨pieces, hp, ht⟩ :=
      Pump.copy_takes Channel.source pumpSink_steady (Channel.ofBytes data) hs
    rw [show Channel.source.content (Channel.ofBytes data) = data from
      Channel.content_ofBytes data] at hp
    exact ⟨pieces, hp, puts_of_takes ht⟩
  · obtain ⟨handle, rfl, hfull⟩ := full_of_not_accepts h haccepts
    obtain ⟨lost, hrelay⟩ := relay_full hfull data s
    rw [hrelay]
    exact ⟨[data], by simp, .cons (.lost hfull lost) (.nil _)⟩

theorem read_ofBytes {data : Bytes} (hd : data ≠ []) (hl : data.length ≤ Pump.chunkSize) :
    (Channel.ofBytes data).readSome (some Pump.chunkSize) = (data, { closed := true }) := by
  cases data with
  | nil => exact absurd rfl hd
  | cons b bs =>
    simp only [Channel.ofBytes, Channel.readSome, Channel.refill, List.isEmpty_cons,
      List.dropWhile_cons, Bool.false_eq_true, ↓reduceIte]
    rw [List.take_of_length_le hl, List.drop_of_length_le hl]

theorem relay_few {sink sink' : Outlet} {data : Bytes} {s s' : State} (hd : data ≠ [])
    (hl : data.length ≤ Pump.chunkSize) (hw : sink.write data s = .ok (sink', s')) :
    sink.relay data s = (sink', s') := by
  have hread := read_ofBytes hd hl
  have hcopy : Pump.copy Channel.source pumpSink (Channel.ofBytes data) (sink, s) =
      Pump.copy Channel.source pumpSink { closed := true } (sink', s') := by
    have h := Pump.copy_piece Channel.source pumpSink (r := Channel.ofBytes data) (s := (sink, s))
      (t := (sink', s')) (u := (sink', s'))
    simp only [Channel.source, hread] at h
    exact h hd (by simp [pumpSink, hw]) rfl
  have heof := Pump.copy_eof Channel.source pumpSink (r := { closed := true }) (sink', s') rfl
  unfold relay Pump.run
  rw [hcopy, heof]
  rfl

theorem relay_refused {sink sink' : Outlet} {data : Bytes} {s : State} {failure : Failure}
    (hd : data ≠ []) (hl : data.length ≤ Pump.chunkSize)
    (hw : sink.write data s = .error (failure, sink')) : sink.relay data s = (sink', s) := by
  have hread := read_ofBytes hd hl
  have hcopy := Pump.copy_break Channel.source pumpSink (r := Channel.ofBytes data)
    (s := (sink, s)) (t := (sink', s))
  simp only [Channel.source, hread] at hcopy
  have hend := hcopy hd (by simp [pumpSink, hw])
  unfold relay Pump.run
  exact congrArg Prod.snd hend

end Outlet

theorem Wiring.deliver_few {w : Wiring} {s s' : State} {stage : Nat} {o : Output} {data : Bytes}
    {sink : Outlet} {broken : List (Nat × Output)} (rest : List Piece) (hd : data ≠ [])
    (hl : data.length ≤ Pump.chunkSize) (hkey : (stage, o) ∉ broken)
    (haccepts : (w.outlet o).accepts = true) (hw : (w.outlet o).write data s = .ok (sink, s')) :
    w.deliver s broken (⟨stage, o, data⟩ :: rest) =
      (w.withOutlet o sink).deliver s' broken rest := by
  rw [deliver, if_neg hkey, Outlet.relay_few hd hl hw]
  simp [haccepts]

theorem Wiring.deliver_refused {w : Wiring} {s : State} {stage : Nat} {o : Output} {data : Bytes}
    {sink : Outlet} {failure : Failure} {broken : List (Nat × Output)} (rest : List Piece)
    (hd : data ≠ []) (hl : data.length ≤ Pump.chunkSize) (hkey : (stage, o) ∉ broken)
    (haccepts : (w.outlet o).accepts = false)
    (hw : (w.outlet o).write data s = .error (failure, sink)) :
    w.deliver s broken (⟨stage, o, data⟩ :: rest) =
      (w.withOutlet o sink).deliver s ((stage, o) :: broken) rest := by
  rw [deliver, if_neg hkey, Outlet.relay_refused hd hl hw]
  simp [haccepts, hd]

/-- Writing some bytes to one of the outputs. -/
def Deed.emit : Output → Bytes → Deed
  | .stdout => .write
  | .stderr => .complain

/-- Deeds that write these bytes to the two outputs and do nothing else. -/
structure Outputs (bytes : Output → Bytes) (ds : List Deed) : Prop where
  only : ∀ d ∈ ds, d.isOutput = true
  written : ds.flatMap Deed.written = bytes .stdout
  complained : ds.flatMap Deed.complained = bytes .stderr

theorem Outputs.emit_append {bytes : Output → Bytes} {ds : List Deed} (h : Outputs bytes ds)
    (o : Output) (pieces : List Bytes) :
    Outputs (fun o' => if o = o' then pieces.flatten ++ bytes o' else bytes o')
      (pieces.map (Deed.emit o) ++ ds) := by
  obtain ⟨honly, hwritten, hcomplained⟩ := h
  cases o with
  | stdout =>
    refine ⟨fun d hd => ?_, ?_, ?_⟩
    · rcases List.mem_append.1 hd with hd | hd
      · obtain ⟨piece, -, rfl⟩ := List.mem_map.1 hd
        rfl
      · exact honly d hd
    · simp [List.flatMap_map, Deed.emit, Deed.written, List.flatMap_id', hwritten]
    · simp [List.flatMap_map, Deed.emit, Deed.complained, hcomplained]
  | stderr =>
    refine ⟨fun d hd => ?_, ?_, ?_⟩
    · rcases List.mem_append.1 hd with hd | hd
      · obtain ⟨piece, -, rfl⟩ := List.mem_map.1 hd
        rfl
      · exact honly d hd
    · simp [List.flatMap_map, Deed.emit, Deed.written, hwritten]
    · simp [List.flatMap_map, Deed.emit, Deed.complained, List.flatMap_id', hcomplained]

theorem steps_puts (base : Text) (builtins : List Text) (feed : Feed) {pieces : List Bytes}
    {w : Wiring} {o : Output} {s : State}
    {target : Outlet × State} (h : Outlet.Puts pieces (w.outlet o, s) target) :
    Steps base builtins (pieces.map (Deed.emit o)) ⟨feed, some w.sink, w.errors, s⟩
      ⟨feed, some (w.withOutlet o target.1).sink, (w.withOutlet o target.1).errors, target.2⟩ := by
  generalize hstart : (w.outlet o, s) = start at h
  induction h generalizing w s with
  | nil target =>
    cases hstart
    cases o <;> exact .nil _
  | @cons piece pieces sink sink' s₁ s' target put _ ih =>
    cases hstart
    cases o with
    | stdout => exact .cons (.write put) (ih (w := { w with sink := sink' }) rfl)
    | stderr => exact .cons (.complain put) (ih (w := { w with errors := sink' }) rfl)

/-- All that a program has written is put to its two outlets. A pump that has broken passes nothing
on, which is as good as lost. -/
theorem Wiring.deliver_outputs (base : Text) (builtins : List Text) (feed : Feed)
    (output : List Piece) (w : Wiring) (s : State) (broken : List (Nat × Output))
    (hopen : ∀ o, (w.outlet o).isOpen = true)
    (hbroken : ∀ key ∈ broken, (w.outlet key.2).accepts = false) :
    ∃ ds : List Deed,
      Outputs (Piece.bytes · output) ds ∧
      Steps base builtins ds ⟨feed, some w.sink, w.errors, s⟩
        ⟨feed, some (w.deliver s broken output).1.sink, (w.deliver s broken output).1.errors,
          (w.deliver s broken output).2⟩ ∧
      (w.deliver s broken output).1.source = w.source := by
  induction output generalizing w s broken with
  | nil => exact ⟨[], ⟨by simp, rfl, rfl⟩, .nil _, rfl⟩
  | cons piece rest ih =>
    obtain ⟨stage, o, data⟩ := piece
    have hbytes {pieces : List Bytes} (hp : pieces.flatten = data) {ds : List Deed}
        (h : Outputs (Piece.bytes · rest) ds) :
        Outputs (Piece.bytes · (⟨stage, o, data⟩ :: rest)) (pieces.map (Deed.emit o) ++ ds) := by
      have hall := h.emit_append o pieces
      have hcons : (fun o' => if o = o' then pieces.flatten ++ Piece.bytes o' rest
          else Piece.bytes o' rest) = (Piece.bytes · (⟨stage, o, data⟩ :: rest)) := by
        funext o'
        by_cases ho : o = o' <;> simp [Piece.bytes, ho, hp]
      rwa [hcons] at hall
    rw [deliver]
    split
    · next hmem =>
      -- the outlet of a pump that has broken is a device without room
      obtain ⟨ds, hout, hsteps, hsource⟩ := ih w s broken hopen hbroken
      obtain ⟨handle, hhandle, hfull⟩ := Outlet.full_of_not_accepts (hopen o) (by
        simp [hbroken _ hmem])
      have hput : Outlet.Puts [data] (w.outlet o, s) (w.outlet o, s) := by
        rw [hhandle]
        exact .cons (.lost hfull handle.lost) (.nil _)
      have hstill := steps_puts base builtins feed hput
      have hsame : w.withOutlet o (w.outlet o) = w := by cases o <;> rfl
      simp only [hsame] at hstill
      exact ⟨_, hbytes (by simp) hout, hstill.append hsteps, hsource⟩
    · obtain ⟨pieces, hp, hput⟩ := Outlet.relay_puts (hopen o) data s
      have hsame := hput.accepts (hopen o)
      have hstays := hput.isOpen (hopen o)
      have houtlet (o' : Output) : (w.withOutlet o ((w.outlet o).relay data s).1).outlet o' =
          if o = o' then ((w.outlet o).relay data s).1 else w.outlet o' := by
        cases o <;> cases o' <;> rfl
      obtain ⟨ds, hout, hsteps, hsource⟩ := ih
        (w.withOutlet o ((w.outlet o).relay data s).1) ((w.outlet o).relay data s).2
        (if !data.isEmpty && !(w.outlet o).accepts then (stage, o) :: broken else broken)
        (fun o' => by
          rw [houtlet]
          split
          · exact hstays
          · exact hopen o')
        (fun key hkey => by
          have hkept : (w.outlet key.2).accepts = false := by
            split at hkey
            · next hbreaks =>
              rcases List.mem_cons.1 hkey with rfl | hkey
              · simpa using (Bool.and_eq_true_iff.1 hbreaks).2
              · exact hbroken key hkey
            · exact hbroken key hkey
          rw [houtlet]
          split
          · next ho => rw [hsame, ho, hkept]
          · exact hkept)
      refine ⟨_, hbytes hp hout, (steps_puts base builtins feed hput).append hsteps,
        hsource.trans ?_⟩
      cases o <;> rfl

/-! ### Running -/

/-- What a stage may do from some state, and how it ends. A program does what the parameter says for
its arguments, directory, environment, whole input and the files. -/
inductive Stage.Does (sh : Shell) (held : List Place) (s : State) :
    Stage → List Deed → Int → Prop
  | builtin {c : Command} {behaviour : Builtin} {ds : List Deed} {status : Int}
      (does : (behaviour c.args).Does ds status) : Does sh held s (.builtin c behaviour) ds status
  | external {c : Command} {executable : Text} {process : sh.programs.Process} {input : Bytes}
      {effect : Effect} {ds : List Deed}
      (launched : sh.programs.launch (Shell.invocation s held c executable) s.files = .ok process)
      (effect_eq : sh.programs.run [(process, {})] input s.files = effect)
      (outputs : Outputs effect.bytes ds) :
      Does sh held s (.external c executable) (.read none input :: .leave effect.files :: ds)
        (effect.status 0)

namespace Shell
variable (sh : Shell) {held : List Place} {w w' : Wiring} {s s' : State} {status : Int}

def drained : Inlet → Inlet
  | .session => .session
  | .channel c => .channel c.readAll.2

theorem drained_finished {source : Inlet} (h : source.Finished) : (drained source).Finished := by
  cases source with
  | session => exact h
  | channel c =>
    intro d hd
    rw [List.mem_singleton.1 hd]
    exact h c (List.mem_singleton_self c)

/-- A program that is started is given all that the stage before has written, and what it writes is
delivered. -/
theorem runProgram_launched {c : Command} {executable : Text} {process : sh.programs.Process}
    (h : sh.programs.launch (invocation s held c executable) s.files = .ok process) (w : Wiring) :
    sh.runProgram held c executable w s =
      let effect := sh.programs.run [(process, {})] (w.source.before.getD []) s.files
      let (w, s) := Wiring.deliver { w with source := drained w.source }
        { s with files := effect.files } [] effect.output
      (.finished (effect.status 0), w, s) := by
  obtain ⟨source, sink, errors⟩ := w
  unfold runProgram
  rw [h]
  cases source with
  | session => rfl
  | channel c =>
    simp only [Channel.readAll_eq, drained]
    rfl

/-- How a stage ends whose program is refused, and the state it leaves. -/
def refused (c : Command) (s : State) : Refusal → StageEnd × State
  | .system _ =>
    match s.report (notFoundMessage c.name) with
    | .error failure => (.raised failure, s)
    | .ok s => (.notStarted, s)
  | .unfit failure => (.raised failure, s)

/-- A program is reported that is not started, and else the stage fails and nothing has changed. -/
theorem refused_cases (c : Command) (s : State) (refusal : Refusal) :
    (∃ cause, refusal = .system cause ∧ c.name.IsWhole ∧
      refused c s refusal =
        (.notStarted, s.emit .stderr (notFoundMessage c.name).lineBytes)) ∨
    ∃ failure, (∀ cause, refusal = .system cause → ¬c.name.IsWhole) ∧
      refused c s refusal = (.raised failure, s) := by
  cases refusal with
  | unfit failure => exact .inr ⟨failure, nofun, rfl⟩
  | system cause =>
    by_cases hname : c.name.IsWhole
    · have hreport := s.report_of_isWhole (State.isWhole_notFoundMessage.2 hname)
      exact .inl ⟨cause, rfl, hname, by simp only [refused, hreport]⟩
    · obtain ⟨e, he⟩ := State.report_of_not_isWhole (mt State.isWhole_notFoundMessage.1 hname)
      exact .inr ⟨.unencodable e, fun _ _ => hname, by simp only [refused, he]⟩

theorem runProgram_refused {c : Command} {executable : Text} {refusal : Refusal}
    (h : sh.programs.launch (invocation s held c executable) s.files = .error refusal)
    (w : Wiring) :
    sh.runProgram held c executable w s =
      ((refused c s refusal).1, w, (refused c s refusal).2) := by
  unfold runProgram refused
  rw [h]
  cases refusal with
  | system cause => cases s.report (notFoundMessage c.name) <;> rfl
  | unfit failure => rfl

theorem launched_of_runProgram {c : Command} {executable : Text}
    (h : sh.runProgram held c executable w s = (.finished status, w', s')) :
    ∃ process, sh.programs.launch (invocation s held c executable) s.files = .ok process := by
  cases hl : sh.programs.launch (invocation s held c executable) s.files with
  | ok process => exact ⟨process, rfl⟩
  | error refusal =>
    rw [sh.runProgram_refused hl] at h
    cases refusal with
    | system cause =>
      simp only [refused] at h
      cases hreport : s.report (notFoundMessage c.name) <;> simp [hreport] at h
    | unfit failure => simp [refused] at h

/-- What a program writes that is started reaches the two outlets, and the files are left as the
program leaves them. -/
theorem runProgram_outputs {c : Command} {executable : Text} {process : sh.programs.Process}
    (hl : sh.programs.launch (invocation s held c executable) s.files = .ok process)
    (hsink : w.sink.isOpen = true) (herrors : w.errors.isOpen = true) :
    let effect := sh.programs.run [(process, {})] (w.source.before.getD []) s.files
    ∃ (w' : Wiring) (s' : State) (ds : List Deed),
      sh.runProgram held c executable w s = (.finished (effect.status 0), w', s') ∧
      Outputs effect.bytes ds ∧
      Steps sh.base sh.names ds ⟨.bytes [], some w.sink, w.errors, { s with files := effect.files }⟩
        ⟨.bytes [], some w'.sink, w'.errors, s'⟩ ∧
      w'.source = drained w.source := by
  intro effect
  obtain ⟨ds, hout, hsteps, hsource⟩ :=
    Wiring.deliver_outputs sh.base sh.names (.bytes []) effect.output
      { w with source := drained w.source } { s with files := effect.files } []
      (fun o => by cases o <;> assumption) nofun
  exact ⟨_, _, ds, sh.runProgram_launched hl w, hout, hsteps, hsource⟩

theorem runProgram_does {c : Command} {executable : Text}
    (h : sh.runProgram held c executable w s = (.finished status, w', s'))
    (hsink : w.sink.isOpen = true) (herrors : w.errors.isOpen = true) :
    ∃ ds : List Deed, (Stage.external c executable).Does sh held s ds status ∧
      Steps sh.base sh.names ds
        ⟨(Stage.external c executable).feed w.source.before, some w.sink, w.errors, s⟩
        ⟨.bytes [], some w'.sink, w'.errors, s'⟩ ∧
      (w.source.Finished → w'.source.Finished) := by
  obtain ⟨process, hl⟩ := sh.launched_of_runProgram h
  obtain ⟨w₁, s₁, ds, hrun, hout, hsteps, hsource⟩ := sh.runProgram_outputs hl hsink herrors
  rw [hrun] at h
  simp only [Prod.mk.injEq, StageEnd.finished.injEq] at h
  obtain ⟨rfl, rfl, rfl⟩ := h
  have hfeed : (Stage.external c executable).feed w.source.before =
      .bytes (w.source.before.getD []) := by
    cases w.source <;> rfl
  have hread : Answers none (w.source.before.getD []) (w.source.before.getD []) [] :=
    ⟨by simp, by simp, by simp, fun _ h => h⟩
  refine ⟨_, .external hl rfl hout, ?_, fun hfin => ?_⟩
  · rw [hfeed]
    exact .cons (.readBytes hread) (.cons .leave hsteps)
  · rw [hsource]
    exact drained_finished hfin

/-- A stage that has come to its end with a status does what it may do, on all that the stage
before has written. -/
theorem runStage_does {stage : Stage}
    (h : sh.runStage held stage w s = (.finished status, w', s'))
    (hsink : w.sink.isOpen = true) (herrors : w.errors.isOpen = true) :
    ∃ (ds : List Deed) (feed : Feed), stage.Does sh held s ds status ∧
      Steps sh.base sh.names ds ⟨stage.feed w.source.before, some w.sink, w.errors, s⟩
        ⟨feed, some w'.sink, w'.errors, s'⟩ ∧
      (w.source.Finished → w'.source.Finished) := by
  cases stage with
  | builtin c behaviour =>
    simp only [runStage] at h
    rcases hr : (behaviour c.args).run sh.base sh.names w s with ⟨ended, w₁, s₁⟩
    rw [hr] at h
    simp only [Prod.mk.injEq] at h
    obtain ⟨hended, rfl, rfl⟩ := h
    cases ended with
    | raised failure => simp [StageEnd.ofEnded] at hended
    | returned st =>
      simp only [StageEnd.ofEnded, StageEnd.finished.injEq] at hended
      rw [hended] at hr
      obtain ⟨ds, hdoes, hsteps, hfin⟩ := (behaviour c.args).does_of_run hr
      have hfeed : (Stage.builtin c behaviour).feed w.source.before = w.source.feed := by
        cases w.source <;> rfl
      rw [hfeed]
      exact ⟨ds, w₁.source.feed, .builtin hdoes, hsteps, hfin⟩
  | external c executable =>
    obtain ⟨ds, hdoes, hsteps, hfin⟩ := sh.runProgram_does h hsink herrors
    exact ⟨ds, .bytes [], hdoes, hsteps, hfin⟩

end Shell
end PipelineShell
