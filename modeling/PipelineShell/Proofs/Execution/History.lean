import PipelineShell.Proofs.Execution.Trace

/-!
# What stages add to the history

Only `history -r` appends to the history, and only after the whole file has been decoded.
-/

namespace PipelineShell

/-! ### Builtins that add nothing -/

/-- The behaviour never adds to the history, whatever it is answered. -/
def Behaviour.AddsNothing : Behaviour → Prop
  | .done _ | .fail _ => True
  | .read _ next => ∀ data, (next data).AddsNothing
  | .write _ next | .complain _ next | .enter _ next => next.AddsNothing
  | .look next => ∀ view, (next view).AddsNothing
  | .remember _ _ => False

theorem Behaviour.AddsNothing.run {b : Behaviour} (h : b.AddsNothing) (base : Text)
    (builtins : List Text) (w : Wiring) (s : State) :
    (b.run base builtins w s).2.2.session.history = s.session.history := by
  induction b generalizing w s with
  | done status => rfl
  | fail failure => rfl
  | read size next ih =>
    obtain ⟨source, sink, errors⟩ := w
    exact (ih _ (h _) _ _).trans (congrArg Memory.history (source.memory_read size s))
  | write data next ih =>
    rw [Behaviour.run]
    cases hw : w.sink.write data s with
    | error refusal => rfl
    | ok out => exact (ih h _ _).trans (congrArg Memory.history (Outlet.memory_write hw))
  | complain data next ih =>
    rw [Behaviour.run]
    cases hw : w.errors.write data s with
    | error refusal => rfl
    | ok out => exact (ih h _ _).trans (congrArg Memory.history (Outlet.memory_write hw))
  | look next ih => exact ih _ (h _) _ _
  | enter directory next ih => exact ih h _ _
  | remember entries next ih => exact h.elim

theorem Behaviour.AddsNothing.say {next : Behaviour} (h : next.AddsNothing) (line : Text) :
    (Behaviour.say line next).AddsNothing := by
  unfold Behaviour.say
  split
  · trivial
  · exact h

theorem Behaviour.addsNothing_say_done (line : Text) (status : Int) :
    (Behaviour.say line (.done status)).AddsNothing := by
  have hdone : (Behaviour.done status).AddsNothing := trivial
  exact hdone.say line

namespace Builtin

theorem addsNothing_list (lines : List Text) : (list lines).AddsNothing := by
  induction lines with
  | nil => trivial
  | cons line rest ih => exact ih.say line

theorem addsNothing_exit (args : List Text) : (exit args).AddsNothing := by
  cases args with
  | nil => trivial
  | cons status rest =>
    simp only [exit]
    split <;> trivial

theorem addsNothing_type (args : List Text) : (type args).AddsNothing := by
  cases args with
  | nil => exact Behaviour.addsNothing_say_done "type: usage: type name".runes 0
  | cons name rest =>
    intro view
    simp only
    split
    · exact Behaviour.addsNothing_say_done _ _
    · split <;> exact Behaviour.addsNothing_say_done _ _

theorem addsNothing_cd (args : List Text) : (cd args).AddsNothing := by
  cases args with
  | nil => trivial
  | cons target rest =>
    intro view
    simp only
    split
    · trivial
    · exact Behaviour.addsNothing_say_done _ _

theorem addsNothing_listHistory (arg : Option Text) : (listHistory arg).AddsNothing :=
  fun _ => addsNothing_list _

theorem history_of_head {args : List Text} (h : args.head? ≠ some "-r".runes) :
    history args = listHistory args.head? := by
  cases args with
  | nil => rfl
  | cons arg rest =>
    have hr : arg ≠ [.char '-', .char 'r'] := fun hr => h (by rw [hr]; rfl)
    simp only [history, if_neg hr, List.head?_cons]

theorem history_missing : history ["-r".runes] = .fail .missingOperand := rfl

theorem history_load (operand : Text) (rest : List Text) :
    history ("-r".runes :: operand :: rest) = loadHistory operand := rfl

/-- Of the standard builtins all but `history -r` leave the history as it is. -/
theorem addsNothing_of_standard {name : Text} {b : Builtin} (h : (name, b) ∈ standard)
    {args : List Text} (hload : name = "history".runes → args.head? ≠ some "-r".runes) :
    (b args).AddsNothing := by
  simp only [standard, List.mem_cons, List.not_mem_nil, or_false, Prod.mk.injEq] at h
  rcases h with ⟨-, rfl⟩ | ⟨-, rfl⟩ | ⟨-, rfl⟩ | ⟨-, rfl⟩ | ⟨-, rfl⟩ | ⟨rfl, rfl⟩
  · exact addsNothing_exit args
  · exact Behaviour.addsNothing_say_done _ _
  · exact addsNothing_type args
  · exact fun view => Behaviour.addsNothing_say_done _ _
  · exact addsNothing_cd args
  · rw [history_of_head (hload rfl)]
    exact addsNothing_listHistory _

theorem eq_history_of_standard {b : Builtin} (h : ("history".runes, b) ∈ standard) :
    b = history := by
  simpa +decide [standard] using h

end Builtin

/-! ### Listing -/

namespace Builtin

theorem length_numbered (n : Nat) (entries : List Text) :
    (numbered n entries).length = entries.length := by
  induction entries generalizing n with
  | nil => rfl
  | cons entry rest ih => rw [numbered, List.length_cons, ih, List.length_cons]

theorem numbered_append (n : Nat) (entries more : List Text) :
    numbered n (entries ++ more) = numbered n entries ++ numbered (n + entries.length) more := by
  induction entries generalizing n with
  | nil => rfl
  | cons entry rest ih =>
    rw [List.cons_append, numbered, numbered, ih, List.length_cons, List.cons_append]
    congr 3
    omega

theorem numbered_drop {k : Nat} {entries : List Text} (h : k ≤ entries.length) :
    numbered (k + 1) (entries.drop k) = (numbered 1 entries).drop k := by
  have hsplit := numbered_append 1 (entries.take k) (entries.drop k)
  have hlength : (numbered 1 (entries.take k)).length = k := by
    rw [length_numbered, List.length_take, Nat.min_eq_left h]
  rw [List.take_append_drop, List.length_take, Nat.min_eq_left h, Nat.add_comm 1 k] at hsplit
  rw [hsplit, List.drop_left' hlength]

/-- As many lines as are asked for at the end of a history that is numbered from one. What is added
to the history later has no part in it. -/
theorem listHistory_run (base : Text) (builtins : List Text) (arg : Option Text) (w : Wiring)
    {s : State} {later : List Text} (h : s.session.history <+: later) :
    let n := s.session.history.length
    (listHistory arg).run base builtins w s =
      (list (((numbered 1 later).take n).drop (n - listedCount n arg))).run base builtins w s := by
  intro n
  obtain ⟨more, rfl⟩ := h
  have htake : (numbered 1 (s.session.history ++ more)).take n =
      numbered 1 s.session.history := by
    rw [numbered_append, List.take_left' (length_numbered 1 _)]
  rw [htake, ← numbered_drop (Nat.sub_le _ _)]
  rfl

end Builtin

/-! ### Loading -/

/-- The entries that a file holds: its lines, if it can be read and is UTF-8. -/
def State.entriesIn? (base operand : Text) (s : State) : Option (List Text) :=
  let path := s.session.resolve operand
  match Text.unfit? path with
  | some _ => none
  | none =>
    match s.files.read base path with
    | .error _ => none
    | .ok bytes =>
      match Utf8.decode bytes with
      | .error _ => none
      | .ok chars => some (Text.lines (Text.unifyLineEnds (Text.ofChars chars)))

theorem Builtin.loadHistory_run (base : Text) (builtins : List Text) (operand : Text) (w : Wiring)
    (s : State) :
    (∃ entries, s.entriesIn? base operand = some entries ∧
      (loadHistory operand).run base builtins w s =
        (.returned 0, w, { s with session := s.session.remember entries })) ∨
    (s.entriesIn? base operand = none ∧ ∃ failure,
      (loadHistory operand).run base builtins w s = (.raised failure, w, s)) := by
  unfold State.entriesIn?
  simp only [loadHistory, Behaviour.run]
  cases Text.unfit? (s.session.resolve operand) with
  | some failure => exact .inr ⟨rfl, failure, rfl⟩
  | none =>
    cases s.files.read base (s.session.resolve operand) with
    | error cause => exact .inr ⟨rfl, _, rfl⟩
    | ok bytes =>
      cases hdecode : Utf8.decode bytes with
      | error e => exact .inr ⟨by simp only [hdecode], _, by simp only [hdecode]; rfl⟩
      | ok chars =>
        refine .inl ⟨Text.lines (Text.unifyLineEnds (Text.ofChars chars)), ?_, ?_⟩
        · simp only [hdecode]
        · simp only [hdecode, Behaviour.run]

/-! ### What one stage adds -/

namespace StageRun

/-- The entries that a stage loads: those of its file if it is a `history -r` that has
succeeded. -/
def loaded (base : Text) (r : StageRun) : List Text :=
  match r.stage.command with
  | ⟨name, flag :: operand :: _⟩ =>
    if name = "history".runes ∧ flag = "-r".runes ∧ r.ended = .finished 0 then
      (r.before.entriesIn? base operand).getD []
    else []
  | _ => []

/-- What a stage does to the history: a `history -r` adds the entries of its file, or fails and
changes nothing; any other stage adds nothing. -/
inductive Records (base : Text) (r : StageRun) : Prop
  | added {operand : Text} {rest entries : List Text}
      (command : r.stage.command = ⟨"history".runes, "-r".runes :: operand :: rest⟩)
      (file : r.before.entriesIn? base operand = some entries)
      (ended : r.ended = .finished 0)
      (after : r.after = { r.before with session := r.before.session.remember entries })
  | refused {rest : List Text} {failure : Failure}
      (command : r.stage.command = ⟨"history".runes, "-r".runes :: rest⟩)
      (unread : ∀ operand, rest.head? = some operand → r.before.entriesIn? base operand = none)
      (ended : r.ended = .raised failure) (after : r.after = r.before)
  | other (command : ∀ rest, r.stage.command ≠ ⟨"history".runes, "-r".runes :: rest⟩)
      (kept : r.after.session.history = r.before.session.history)

variable {sh : Shell} {base : Text} {r : StageRun}

theorem records_of_builtin (hstandard : sh.builtins = Builtin.standard) (h : r.Genuine sh)
    {c : Command} {b : Builtin} (hstage : r.stage = .builtin c b) : r.Records sh.base := by
  obtain ⟨hmem, ended, hended, hrun⟩ := h.of_builtin hstage
  rw [hstandard] at hmem
  have hcommand : r.stage.command = c := by rw [hstage]; rfl
  obtain ⟨name, args⟩ := c
  simp only at hrun hmem
  by_cases hload : name = "history".runes ∧ args.head? = some "-r".runes
  · obtain ⟨rfl, hflag⟩ := hload
    obtain ⟨rest, rfl⟩ : ∃ rest, args = "-r".runes :: rest := by
      cases args with
      | nil => cases hflag
      | cons arg rest => exact ⟨rest, by rw [Option.some.inj hflag]⟩
    rw [Builtin.eq_history_of_standard hmem] at hrun
    cases rest with
    | nil =>
      rw [Builtin.history_missing] at hrun
      simp only [Behaviour.run, Prod.mk.injEq] at hrun
      obtain ⟨rfl, -, hafter⟩ := hrun
      exact .refused hcommand (by simp) hended hafter.symm
    | cons operand rest =>
      rw [Builtin.history_load] at hrun
      rcases Builtin.loadHistory_run sh.base sh.names operand r.wiring r.before with
        ⟨entries, hfile, hloads⟩ | ⟨hfile, failure, hfails⟩
      · rw [hloads] at hrun
        simp only [Prod.mk.injEq] at hrun
        obtain ⟨rfl, -, hafter⟩ := hrun
        exact .added hcommand hfile hended hafter.symm
      · rw [hfails] at hrun
        simp only [Prod.mk.injEq] at hrun
        obtain ⟨rfl, -, hafter⟩ := hrun
        refine .refused hcommand (fun o ho => ?_) hended hafter.symm
        rw [← Option.some.inj ho, hfile]
  · refine .other (fun rest hcd => ?_) ?_
    · rw [hcommand] at hcd
      obtain ⟨hname, hargs⟩ := Command.mk.inj hcd
      exact hload ⟨hname, by rw [hargs]; rfl⟩
    · have hadds := Builtin.addsNothing_of_standard hmem fun hname hflag => hload ⟨hname, hflag⟩
      have hkept := hadds.run sh.base sh.names r.wiring r.before
      rwa [hrun] at hkept

theorem records_of_external (hstandard : sh.builtins = Builtin.standard) (h : r.Genuine sh)
    {c : Command} {executable : Text} (hstage : r.stage = .external c executable) :
    r.Records sh.base := by
  obtain ⟨hnone, hkept⟩ := h.of_external hstage
  have hcommand : r.stage.command = c := by rw [hstage]; rfl
  refine .other (fun rest hhistory => ?_) (congrArg Memory.history hkept)
  rw [hcommand] at hhistory
  rw [hhistory, Shell.builtin?, hstandard] at hnone
  cases hnone

theorem records_of_genuine (hstandard : sh.builtins = Builtin.standard) (h : r.Genuine sh) :
    r.Records sh.base := by
  cases hstage : r.stage with
  | builtin c b => exact records_of_builtin hstandard h hstage
  | external c executable => exact records_of_external hstandard h hstage

theorem Records.history (h : r.Records base) :
    r.after.session.history = r.before.session.history ++ r.loaded base := by
  cases h with
  | added command file ended after =>
    rw [after, loaded, command]
    simp only [ended, file, and_self, ↓reduceIte, Option.getD_some]
    rfl
  | @refused rest failure command unread ended after =>
    have hnone : r.loaded base = [] := by
      rw [loaded, command]
      cases rest with
      | nil => rfl
      | cons operand rest => simp [ended]
    rw [hnone, List.append_nil, after]
  | other command kept =>
    have hnone : r.loaded base = [] := by
      unfold loaded
      split
      · next name flag operand rest hcommand =>
        refine if_neg fun ⟨hname, hflag, _⟩ => command (operand :: rest) ?_
        rw [hcommand, hname, hflag]
      · rfl
    rw [hnone, List.append_nil, kept]

end StageRun

/-! ### What one line adds -/

section
variable {s s' : State} {base : Text} {runs more : List StageRun}

theorem Linked.history (h : Linked s runs s') (hruns : ∀ r ∈ runs, r.Records base) :
    s'.session.history = s.session.history ++ runs.flatMap (StageRun.loaded base) := by
  induction h with
  | nil kept =>
    rw [List.flatMap_nil, List.append_nil]
    exact congrArg Memory.history kept
  | @cons s s' r runs kept rest ih =>
    obtain ⟨hr, hrest⟩ := List.forall_mem_cons.1 hruns
    have hbefore : r.before.session.history = s.session.history := congrArg Memory.history kept
    rw [ih hrest, hr.history, hbefore, List.flatMap_cons, List.append_assoc]

theorem Linked.history_before {r : StageRun} (h : Linked s (runs ++ r :: more) s')
    (hruns : ∀ r' ∈ runs, r'.Records base) :
    r.before.session.history = s.session.history ++ runs.flatMap (StageRun.loaded base) := by
  induction runs generalizing s with
  | nil =>
    cases h with
    | cons kept rest =>
      rw [List.flatMap_nil, List.append_nil]
      exact congrArg Memory.history kept
  | cons first runs ih =>
    obtain ⟨hfirst, hrest⟩ := List.forall_mem_cons.1 hruns
    cases h with
    | cons kept rest =>
      have hbefore : first.before.session.history = s.session.history :=
        congrArg Memory.history kept
      rw [ih rest hrest, hfirst.history, hbefore, List.flatMap_cons, List.append_assoc]

end

/-- While a line is run on a state the shell comes to this state, behind these runs of stages. -/
inductive Shell.Reaches (sh : Shell) (line : Text) (s : State) : List StageRun → State → Prop
  | start : Reaches sh line s [] s
  | before {done rest : List StageRun} {r : StageRun}
      (runs : sh.lineRuns line s = done ++ r :: rest) : Reaches sh line s done r.before
  | behind {done rest : List StageRun} {r : StageRun}
      (runs : sh.lineRuns line s = done ++ r :: rest) : Reaches sh line s (done ++ [r]) r.after
  | finish : Reaches sh line s (sh.lineRuns line s) (sh.runLine line s).2

namespace Shell
variable {sh : Shell} {line : Text} {s m : State} {done : List StageRun}

theorem lineRuns_records (hstandard : sh.builtins = Builtin.standard) (line : Text) (s : State) :
    ∀ r ∈ sh.lineRuns line s, r.Records sh.base := fun r hr =>
  StageRun.records_of_genuine hstandard ((sh.lineRuns_traced line s).genuine r hr)

/-- While a line is run the history is what it was at first and then what has been loaded. -/
theorem Reaches.history (hstandard : sh.builtins = Builtin.standard)
    (h : sh.Reaches line s done m) :
    m.session.history = s.session.history ++ done.flatMap (StageRun.loaded sh.base) ∧
      done <+: sh.lineRuns line s := by
  have hlinked := (sh.lineRuns_traced line s).linked
  have hrecords := lineRuns_records hstandard line s
  cases h with
  | start => exact ⟨by simp, List.nil_prefix⟩
  | before runs =>
    rw [runs] at hlinked hrecords ⊢
    exact ⟨hlinked.history_before fun r hr => hrecords r (List.mem_append_left _ hr),
      List.prefix_append _ _⟩
  | @behind earlier rest r runs =>
    rw [runs] at hlinked hrecords ⊢
    have hbefore := hlinked.history_before fun r hr => hrecords r (List.mem_append_left _ hr)
    have hr := hrecords r (by simp)
    refine ⟨?_, ⟨rest, by simp⟩⟩
    rw [hr.history, hbefore, List.flatMap_append, List.flatMap_singleton, List.append_assoc]
  | finish => exact ⟨hlinked.history hrecords, List.prefix_refl _⟩

end Shell
end PipelineShell
