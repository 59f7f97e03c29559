import PipelineShell.Proofs.Execution.History
import PipelineShell.Proofs.Execution.Rejection
import PipelineShell.Proofs.Execution.Saying

/-!
# Listing the end of a history

`history n` writes the last lines of the full listing, up to the first that cannot be written.
-/

namespace PipelineShell

/-- The lines have been written to the sink one by one, and no more has changed in the session than
what the sink has got there. -/
structure Printed (lines : List Text) (w : Wiring) (s : State) (w' : Wiring) (s' : State) :
    Prop where
  pieces : Outlet.pumpSink.Takes (lines.map Text.lineBytes) (w.sink, s) (w'.sink, s')
  source : w'.source = w.source
  errors : w'.errors = w.errors
  memory : s'.memory = s.memory
  stdin : s'.session.stdin = s.session.stdin
  output : ∀ o, s'.output o =
    s.output o ++ if w.sink = .session o then lines.flatMap Text.lineBytes else []

theorem Printed.nil (w : Wiring) (s : State) : Printed [] w s w s :=
  ⟨.nil _, rfl, rfl, rfl, rfl, by simp⟩

theorem Printed.cons {line : Text} {rest : List Text} {w w' : Wiring} {s t s' : State}
    {sink : Outlet} (hw : w.sink.write line.lineBytes s = .ok (sink, t))
    (h : Printed rest { w with sink } t w' s') : Printed (line :: rest) w s w' s' := by
  have hwrote := Outlet.wrote_of_write hw
  have hcall : Outlet.pumpSink.write line.lineBytes (w.sink, s) = ((sink, t), true) := by
    simp [Outlet.pumpSink, hw]
  refine ⟨.cons hcall rfl h.pieces, h.source, h.errors, h.memory.trans (Outlet.memory_write hw),
    h.stdin.trans hwrote.stdin, fun o => ?_⟩
  rw [h.output o, hwrote.output o, List.append_assoc]
  by_cases hsink : w.sink = .session o
  · have hsink' : sink = .session o := (hwrote.session_iff o).2 hsink
    simp [hsink, hsink']
  · have hsink' : sink ≠ .session o := mt (hwrote.session_iff o).1 hsink
    simp [hsink, hsink']

/-- What comes of writing lines one by one: all of them are printed and the status is zero, or those
before the first that cannot be written, which is what it fails with. -/
inductive Lists (lines : List Text) (w : Wiring) (s : State) : Ended × Wiring × State → Prop
  | all {w' : Wiring} {s' : State} (told : ∀ line ∈ lines, w.sink.Tells line)
      (printed : Printed lines w s w' s') : Lists lines w s (.returned 0, w', s')
  | upTo {told rest : List Text} {line : Text} {failure : Failure} {w' : Wiring} {sink : Outlet}
      {s' : State} (split : lines = told ++ line :: rest) (untold : ¬w.sink.Tells line)
      (failed : Untold failure) (printed : Printed told w s w' s') :
      Lists lines w s (.raised failure, { w' with sink }, s')

theorem Lists.returned {lines : List Text} {w : Wiring} {s : State} {out : Ended × Wiring × State}
    (h : Lists lines w s out) (htells : ∀ line ∈ lines, w.sink.Tells line) :
    ∃ w' s', out = (.returned 0, w', s') ∧ Printed lines w s w' s' := by
  cases h with
  | all told printed => exact ⟨_, _, rfl, printed⟩
  | @upTo told rest line failure w' sink s' split untold failed printed =>
    exact absurd (htells line (by simp [split])) untold

theorem Lists.kept {lines : List Text} {w : Wiring} {s : State} {out : Ended × Wiring × State}
    (h : Lists lines w s out) :
    out.2.2.memory = s.memory ∧ out.2.2.session.stdin = s.session.stdin := by
  cases h with
  | all told printed => exact ⟨printed.memory, printed.stdin⟩
  | upTo split untold failed printed => exact ⟨printed.memory, printed.stdin⟩

namespace Builtin

variable (base : Text) (builtins : List Text) {w : Wiring}

theorem list_run (lines : List Text) (hopen : w.sink.isOpen = true) (s : State) :
    Lists lines w s ((list lines).run base builtins w s) := by
  induction lines generalizing w s with
  | nil => exact .all (fun _ h => nomatch h) (.nil w s)
  | cons line rest ih =>
    by_cases htells : w.sink.Tells line
    · obtain ⟨sink, t, hw, hrun⟩ := Behaviour.say_of_tells base builtins (list rest) htells s
      have hwrote := Outlet.wrote_of_write hw
      have hrest := ih (w := { w with sink }) hwrote.isOpen t
      -- what can be written to the outlet is the same after each line
      have hsame (l : Text) : sink.Tells l ↔ w.sink.Tells l :=
        ⟨fun h => ⟨h.whole, hwrote.accepts hopen ▸ h.accepts⟩,
          fun h => ⟨h.whole, (hwrote.accepts hopen).trans h.accepts⟩⟩
      rw [list, hrun]
      generalize (list rest).run base builtins { w with sink } t = out at hrest
      cases hrest with
      | all told printed =>
        exact .all (List.forall_mem_cons.2 ⟨htells, fun l hl => (hsame l).1 (told l hl)⟩)
          (printed.cons hw)
      | @upTo told more line' failure w' sink' s' split untold failed printed =>
        exact .upTo (by rw [split, List.cons_append]) (mt (hsame line').2 untold) failed
          (printed.cons hw)
    · obtain ⟨failure, sink, hfailure, hrun⟩ :=
        Behaviour.say_of_not_tells base builtins (list rest) hopen htells s
      rw [list, hrun]
      exact .upTo (List.nil_append _).symm htells hfailure (.nil w s)

theorem listedCount_le (size : Nat) (arg : Option Text) : listedCount size arg ≤ size := by
  unfold listedCount
  split <;> omega

theorem listedCount_of_number {arg : Text} {n : Int} (h : Text.Numeral.read arg = .ok n)
    (size : Nat) : (listedCount size (some arg) : Int) = max 0 (min n size) := by
  simp only [listedCount, Option.map_some, h]
  omega

theorem listedCount_of_no_number {arg : Option Text}
    (h : ∀ t ∈ arg, ∀ n, Text.Numeral.read t ≠ .ok n) (size : Nat) :
    listedCount size arg = size := by
  cases arg with
  | none => rfl
  | some t =>
    cases hread : Text.Numeral.read t with
    | error e => simp only [listedCount, Option.map_some, hread]
    | ok n => exact absurd hread (h t rfl n)

theorem history_run_of_head {args : List Text} (hargs : args.head? ≠ some "-r".runes)
    (hopen : w.sink.isOpen = true) (s : State) :
    let n := s.session.history.length
    Lists ((numbered 1 s.session.history).drop (n - listedCount n args.head?)) w s
      ((history args).run base builtins w s) := by
  intro n
  have htake : (numbered 1 s.session.history).take n = numbered 1 s.session.history :=
    List.take_of_length_le (Nat.le_of_eq (length_numbered 1 _))
  rw [history_of_head hargs, listHistory_run base builtins _ w (List.prefix_refl _), htake]
  exact list_run base builtins _ hopen s

/-- `history` lists all entries; with an argument other than `-r` it lists the last `max 0 (min n
size)` lines for a number `n`, and all for anything else, with the numbers of the full listing. It
returns 0 if all these lines can be written, else it raises at the first that cannot. -/
theorem history_lists_end (base : Text) (builtins : List Text) {args : List Text}
    (hargs : args.head? ≠ some "-r".runes) {w : Wiring} (hopen : w.sink.isOpen = true)
    (s : State) :
    let lines := numbered 1 s.session.history
    let out := (history args).run base builtins w s
    Lists lines w s ((history []).run base builtins w s) ∧
    (∃ shown, Lists shown w s out ∧ shown <:+ lines ∧
      ((∀ line ∈ shown, w.sink.Tells line) →
        ∃ w' s', out = (.returned 0, w', s') ∧ Printed shown w s w' s') ∧
      (∀ arg ∈ args.head?, ∀ n, Text.Numeral.read arg = .ok n →
        (shown.length : Int) = max 0 (min n s.session.history.length)) ∧
      ((∀ arg ∈ args.head?, ∀ n, Text.Numeral.read arg ≠ .ok n) → shown = lines)) ∧
    out.2.2.memory = s.memory ∧ out.2.2.session.stdin = s.session.stdin := by
  intro lines out
  have hlength : lines.length = s.session.history.length := length_numbered 1 _
  have hlists := history_run_of_head base builtins hargs hopen s
  refine ⟨?_, ⟨_, hlists, List.drop_suffix .., hlists.returned, fun arg harg n hn => ?_,
    fun hno => ?_⟩, hlists.kept⟩
  · have hnone : ([] : List Text).head? ≠ some "-r".runes := nofun
    have hall := history_run_of_head base builtins hnone hopen s
    simp only at hall
    rwa [listedCount_of_no_number (by simp), Nat.sub_self, List.drop_zero] at hall
  · have hcount := listedCount_of_number hn s.session.history.length
    rw [Option.mem_def.1 harg, List.length_drop, hlength]
    omega
  · rw [listedCount_of_no_number hno, Nat.sub_self, List.drop_zero]

/-- Three entries, of which the last two are asked for in digits of another script, and then more
than there are. -/
theorem history_lists_end_few :
    let w : Wiring := ⟨.session, .session .stdout, .session .stderr⟩
    let s : State :=
      { session := { cwd := [.char '/'], history := [[.char 'a'], [], [.char 'c']] }, files := {} }
    let few : List Text := [" +٢ ".runes, [.char 'x']]
    let many : List Text := ["99999999999999999999".runes]
    (few.head? ≠ some "-r".runes ∧ many.head? ≠ some "-r".runes ∧ w.sink.isOpen = true) ∧
      (∃ w' s', (history few).run [.char '/'] [] w s = (.returned 0, w', s') ∧
        Printed ["2  ".runes, "3  c".runes] w s w' s') ∧
      ∃ w' s', (history many).run [.char '/'] [] w s = (.returned 0, w', s') ∧
        Printed ["1  a".runes, "2  ".runes, "3  c".runes] w s w' s' := by
  intro w s few many
  have hfew : few.head? ≠ some "-r".runes := by decide
  have hmany : many.head? ≠ some "-r".runes := by decide
  have hlines : numbered 1 s.session.history = ["1  a".runes, "2  ".runes, "3  c".runes] := by
    decide
  have hread : Text.Numeral.read " +٢ ".runes = .ok 2 := by rfl
  have hread' : Text.Numeral.read "99999999999999999999".runes = .ok 99999999999999999999 := by
    rfl
  refine ⟨⟨hfew, hmany, rfl⟩, ?_, ?_⟩
  · obtain ⟨-, ⟨shown, -, hsuffix, hprinted, hlength, -⟩, -⟩ :=
      history_lists_end [.char '/'] [] hfew (w := w) rfl s
    have htwo : (shown.length : Int) = 2 := hlength _ rfl 2 hread
    have hshown : shown = ["2  ".runes, "3  c".runes] := by
      rw [List.suffix_iff_eq_drop.1 hsuffix, hlines, Int.ofNat_inj.1 htwo]
      rfl
    rw [hshown] at hprinted
    exact hprinted (by decide)
  · obtain ⟨-, ⟨shown, -, hsuffix, hprinted, hlength, -⟩, -⟩ :=
      history_lists_end [.char '/'] [] hmany (w := w) rfl s
    have hthree : (shown.length : Int) = 3 := hlength _ rfl _ hread'
    have hshown : shown = ["1  a".runes, "2  ".runes, "3  c".runes] := by
      rw [List.suffix_iff_eq_drop.1 hsuffix, hlines, Int.ofNat_inj.1 hthree]
      rfl
    rw [hshown] at hprinted
    exact hprinted (by decide)

theorem history_not_listed :
    ¬∀ (sh : Shell), sh.builtins = Builtin.standard → ∀ (s : State) (line : Text),
      ∀ r ∈ sh.lineRuns line s, r.stage.command.name = "history".runes →
        r.stage.command.args.head? ≠ some "-r".runes → r.ended = .finished 0 := by
  intro h
  let s : State := { Shell.roomless with session := { cwd := "/".runes, history := ["a".runes] } }
  have hruns : (Shell.plain.lineRuns "history > /dev/full".runes s).map
      (fun r => (r.stage.command, r.ended)) =
      [(⟨"history".runes, []⟩, .raised (.unwritable .noSpace))] := by
    decide +kernel
  obtain ⟨r, hr, hfacts⟩ := List.mem_map.1 (hruns ▸ List.mem_singleton_self _)
  simp only [Prod.mk.injEq] at hfacts
  obtain ⟨hcommand, hended⟩ := hfacts
  have hzero := h Shell.plain rfl s "history > /dev/full".runes r hr (by rw [hcommand])
    (by rw [hcommand]; nofun)
  rw [hended] at hzero
  cases hzero

end Builtin
end PipelineShell
