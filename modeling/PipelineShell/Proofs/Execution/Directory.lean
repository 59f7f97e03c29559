import PipelineShell.Proofs.Execution.Rejection
import PipelineShell.Proofs.Execution.Saying
import PipelineShell.Proofs.Execution.Trace
import PipelineShell.Proofs.Path

/-!
# The directory of a session

Only `cd` with an argument calls `set_cwd`, with a directory that is there. So `cwd` stays absolute
and normalised over any lines, and of the environment only `PWD` changes.
-/

namespace PipelineShell

/-! ### Builtins that stay -/

/-- The directory and the environment are the same. -/
structure State.Stayed (s s' : State) : Prop where
  cwd : s'.session.cwd = s.session.cwd
  env : s'.session.env = s.session.env

namespace State.Stayed
variable {s s' s'' : State}

theorem of_memory (h : s'.memory = s.memory) : s.Stayed s' :=
  ⟨congrArg Memory.cwd h, congrArg Memory.env h⟩

theorem trans (h : s.Stayed s') (k : s'.Stayed s'') : s.Stayed s'' :=
  ⟨k.cwd.trans h.cwd, k.env.trans h.env⟩

end State.Stayed

/-- The behaviour never changes the directory, whatever it is answered. -/
def Behaviour.Stays : Behaviour → Prop
  | .done _ | .fail _ => True
  | .read _ next => ∀ data, (next data).Stays
  | .write _ next | .complain _ next | .remember _ next => next.Stays
  | .look next => ∀ view, (next view).Stays
  | .enter _ _ => False

theorem Behaviour.Stays.run {b : Behaviour} (h : b.Stays) (base : Text) (builtins : List Text)
    (w : Wiring) (s : State) : s.Stayed (b.run base builtins w s).2.2 := by
  induction b generalizing w s with
  | done status => exact ⟨rfl, rfl⟩
  | fail failure => exact ⟨rfl, rfl⟩
  | read size next ih =>
    obtain ⟨source, sink, errors⟩ := w
    exact (State.Stayed.of_memory (source.memory_read size s)).trans (ih _ (h _) _ _)
  | write data next ih =>
    rw [Behaviour.run]
    cases hw : w.sink.write data s with
    | error refusal => exact ⟨rfl, rfl⟩
    | ok out => exact (State.Stayed.of_memory (Outlet.memory_write hw)).trans (ih h _ _)
  | complain data next ih =>
    rw [Behaviour.run]
    cases hw : w.errors.write data s with
    | error refusal => exact ⟨rfl, rfl⟩
    | ok out => exact (State.Stayed.of_memory (Outlet.memory_write hw)).trans (ih h _ _)
  | look next ih => exact ih _ (h _) _ _
  | enter directory next ih => exact h.elim
  | remember entries next ih =>
    have hstayed : s.Stayed { s with session := s.session.remember entries } := ⟨rfl, rfl⟩
    exact hstayed.trans (ih h _ _)

theorem Behaviour.Stays.say {next : Behaviour} (h : next.Stays) (line : Text) :
    (Behaviour.say line next).Stays := by
  unfold Behaviour.say
  split
  · trivial
  · exact h

theorem Behaviour.stays_say_done (line : Text) (status : Int) :
    (Behaviour.say line (.done status)).Stays := by
  have hdone : (Behaviour.done status).Stays := trivial
  exact hdone.say line

namespace Builtin

theorem stays_list (lines : List Text) : (list lines).Stays := by
  induction lines with
  | nil => trivial
  | cons line rest ih => exact ih.say line

theorem stays_history (args : List Text) : (history args).Stays := by
  have hlist (arg : Option Text) : (listHistory arg).Stays := fun view => stays_list _
  have hload (operand : Text) : (loadHistory operand).Stays := by
    intro view
    simp only
    split
    · trivial
    · split
      · trivial
      · split <;> trivial
  cases args with
  | nil => exact hlist none
  | cons arg rest =>
    simp only [history]
    split
    · cases rest with
      | nil => trivial
      | cons operand rest => exact hload operand
    · exact hlist (some arg)

theorem stays_type (args : List Text) : (type args).Stays := by
  cases args with
  | nil => exact Behaviour.stays_say_done "type: usage: type name".runes 0
  | cons name rest =>
    intro view
    simp only
    split
    · exact Behaviour.stays_say_done _ _
    · split <;> exact Behaviour.stays_say_done _ _

theorem stays_exit (args : List Text) : (exit args).Stays := by
  cases args with
  | nil => trivial
  | cons status rest =>
    simp only [exit]
    split <;> trivial

/-- Of the standard builtins all but `cd` stay where they are. -/
theorem stays_of_standard {name : Text} {b : Builtin} (h : (name, b) ∈ standard)
    (hname : name ≠ "cd".runes) (args : List Text) : (b args).Stays := by
  simp only [standard, List.mem_cons, List.not_mem_nil, or_false, Prod.mk.injEq] at h
  rcases h with ⟨-, rfl⟩ | ⟨-, rfl⟩ | ⟨-, rfl⟩ | ⟨-, rfl⟩ | ⟨rfl, -⟩ | ⟨-, rfl⟩
  · exact stays_exit args
  · exact Behaviour.stays_say_done _ _
  · exact stays_type args
  · exact fun view => Behaviour.stays_say_done _ _
  · exact absurd rfl hname
  · exact stays_history args

theorem eq_cd_of_standard {b : Builtin} (h : ("cd".runes, b) ∈ standard) : b = cd := by
  simpa +decide [standard] using h

/-- The directory that `cd` is to go to. -/
def destination (s : Session) (target : Text) : Text :=
  s.resolve (expandHome (s.env.get? "HOME".runes) target)

/-- What is told of a target that is no directory. -/
def missingMessage (directory : Text) : Text :=
  "cd: ".runes ++ directory ++ ": No such file or directory".runes

variable {base : Text} {s : State} {target : Text}

theorem cd_run_of_directory (h : s.files.isDirectory base (destination s.session target) = true)
    (builtins rest : List Text) (w : Wiring) :
    (cd (target :: rest)).run base builtins w s =
      (.returned 0, w, { s with session := s.session.enter (destination s.session target) }) := by
  unfold destination at *
  simp only [cd, Behaviour.run, h, ↓reduceIte]

theorem cd_run_of_missing (h : s.files.isDirectory base (destination s.session target) = false)
    (builtins rest : List Text) (w : Wiring) :
    (cd (target :: rest)).run base builtins w s =
      (Behaviour.say (missingMessage (destination s.session target)) (.done 1)).run
        base builtins w s := by
  unfold destination at *
  simp only [cd, Behaviour.run, h, Bool.false_eq_true, ↓reduceIte, missingMessage]

end Builtin

/-! ### What one stage does to the directory -/

namespace StageRun

/-- A `cd` with an argument that has succeeded. -/
structure Moves (r : StageRun) : Prop where
  name : r.stage.command.name = "cd".runes
  args : r.stage.command.args ≠ []
  ended : r.ended = .finished 0

instance (r : StageRun) : Decidable r.Moves :=
  decidable_of_iff
    (r.stage.command.name = "cd".runes ∧ r.stage.command.args ≠ [] ∧ r.ended = .finished 0)
    ⟨fun h => ⟨h.1, h.2.1, h.2.2⟩, fun h => ⟨h.name, h.args, h.ended⟩⟩

/-- What a stage does to the directory: a `cd` with an argument goes to the directory that this
stands for if there is one, and else stays and has status one, unless what it has to tell cannot be
written; any other stage stays. -/
inductive Directs (base : Text) (r : StageRun) : Prop
  | entered {target : Text} {rest : List Text}
      (command : r.stage.command = ⟨"cd".runes, target :: rest⟩)
      (existing : r.before.files.isDirectory base
        (Builtin.destination r.before.session target) = true)
      (ended : r.ended = .finished 0)
      (after : r.after = { r.before with
        session := r.before.session.enter (Builtin.destination r.before.session target) })
  | refused {target : Text} {rest : List Text}
      (command : r.stage.command = ⟨"cd".runes, target :: rest⟩)
      (missing : r.before.files.isDirectory base
        (Builtin.destination r.before.session target) = false)
      (ended :
        if r.wiring.sink.Tells
            (Builtin.missingMessage (Builtin.destination r.before.session target)) then
          r.ended = .finished 1
        else ∃ failure, Untold failure ∧ r.ended = .raised failure)
      (stayed : r.before.Stayed r.after)
  | other (command : ∀ target rest, r.stage.command ≠ ⟨"cd".runes, target :: rest⟩)
      (stayed : r.before.Stayed r.after)

variable {sh : Shell} {base : Text} {r : StageRun}

theorem directs_of_builtin (hstandard : sh.builtins = Builtin.standard) (h : r.Genuine sh)
    {c : Command} {b : Builtin} (hstage : r.stage = .builtin c b) : r.Directs sh.base := by
  obtain ⟨hmem, ended, hends, hrun⟩ := h.of_builtin hstage
  rw [hstandard] at hmem
  have hcommand : r.stage.command = c := by rw [hstage]; rfl
  obtain ⟨name, args⟩ := c
  have hended : .ofEnded ((b args).run sh.base sh.names r.wiring r.before).1 = r.ended := by
    rw [hrun, hends]
  have hafter : ((b args).run sh.base sh.names r.wiring r.before).2.2 = r.after := by rw [hrun]
  by_cases hname : name = "cd".runes
  · rw [hname] at hmem hcommand
    have hb := Builtin.eq_cd_of_standard hmem
    rw [hb] at hended hafter
    cases args with
    | nil =>
      refine .other (fun target rest => by simp [hcommand]) ?_
      rw [← hafter]
      exact ⟨rfl, rfl⟩
    | cons target rest =>
      cases hdir : r.before.files.isDirectory sh.base
          (Builtin.destination r.before.session target) with
      | true =>
        rw [Builtin.cd_run_of_directory hdir sh.names] at hended hafter
        exact .entered hcommand hdir hended.symm hafter.symm
      | false =>
        have hsaid := Behaviour.say_done sh.base sh.names (Builtin.missingMessage
          (Builtin.destination r.before.session target)) h.writable 1 r.before
        rw [← Builtin.cd_run_of_missing hdir sh.names rest, hafter] at hsaid
        refine .refused hcommand hdir ?_ (.of_memory hsaid.1)
        have htold := hsaid.2
        split at htold
        · next htells => rw [if_pos htells, ← hended, htold]; rfl
        · next htells =>
          obtain ⟨failure, hfailure, hraised⟩ := htold
          rw [if_neg htells]
          exact ⟨failure, hfailure, by rw [← hended, hraised]; rfl⟩
  · refine .other (fun target rest hcd => ?_) ?_
    · rw [hcommand] at hcd
      exact hname (Command.mk.inj hcd).1
    · rw [← hafter]
      exact (Builtin.stays_of_standard hmem hname args).run sh.base sh.names _ _

theorem directs_of_external (hstandard : sh.builtins = Builtin.standard) (h : r.Genuine sh)
    {c : Command} {executable : Text} (hstage : r.stage = .external c executable) :
    r.Directs sh.base := by
  obtain ⟨hresolved, hkept⟩ := h.of_external hstage
  rw [Shell.builtin?, hstandard] at hresolved
  have hcommand : r.stage.command = c := by rw [hstage]; rfl
  refine .other (fun target rest hcd => ?_) (.of_memory hkept)
  rw [hcommand] at hcd
  rw [hcd] at hresolved
  cases hresolved

theorem directs_of_genuine (hstandard : sh.builtins = Builtin.standard) (h : r.Genuine sh) :
    r.Directs sh.base := by
  cases hstage : r.stage with
  | builtin c b => exact directs_of_builtin hstandard h hstage
  | external c executable => exact directs_of_external hstandard h hstage

/-- The directory is changed by nothing but a `cd` that succeeds, and to a directory that is there
at that time. -/
theorem Directs.moves (h : r.Directs base)
    (hcwd : r.after.session.cwd ≠ r.before.session.cwd) :
    r.Moves ∧ r.before.files.isDirectory base r.after.session.cwd = true := by
  cases h with
  | entered command existing ended after =>
    refine ⟨⟨by rw [command], by simp [command], ended⟩, ?_⟩
    rw [after]
    exact existing
  | refused command missing ended stayed => exact absurd stayed.cwd hcwd
  | other command stayed => exact absurd stayed.cwd hcwd

end StageRun

/-! ### What holds throughout -/

/-- What holds of the directory and the environment of a session that has started so: what has
become of them depends on whether the session has been moved since. -/
structure Session.Directed (start : Session) (moved : Prop) (s : Session) : Prop where
  settled : Path.Settled s.cwd
  others : ∀ v, v ≠ "PWD".runes → s.env.get? v = start.env.get? v
  unmoved : ¬moved → s.cwd = start.cwd ∧ s.env = start.env
  told : moved → s.env.get? "PWD".runes = some s.cwd

variable {start : Session} {moved : Prop} {s s' : State} {base : Text} {r : StageRun}
  {runs : List StageRun}

theorem Session.Directed.congr {other : Prop} (h : start.Directed moved s.session)
    (hstayed : s.Stayed s') (hmoved : other ↔ moved) : start.Directed other s'.session where
  settled := by rw [hstayed.cwd]; exact h.settled
  others v hv := by rw [hstayed.env]; exact h.others v hv
  unmoved hm := by rw [hstayed.cwd, hstayed.env]; exact h.unmoved (mt hmoved.2 hm)
  told hm := by rw [hstayed.cwd, hstayed.env]; exact h.told (hmoved.1 hm)

theorem StageRun.Directs.directed (hr : r.Directs base)
    (h : start.Directed moved r.before.session) :
    start.Directed (moved ∨ r.Moves) r.after.session := by
  cases hr with
  | @entered target rest command existing ended after =>
    have hmoves : r.Moves := ⟨by rw [command], by simp [command], ended⟩
    rw [after]
    refine ⟨Session.settled_resolve h.settled _, fun v hv => ?_,
      fun hm => absurd (.inr hmoves) hm, fun _ => ?_⟩
    · simp only [Session.enter, Environment.get?_set, if_neg hv]
      exact h.others v hv
    · simp only [Session.enter, Environment.get?_set, if_pos]
  | refused command missing ended stayed =>
    have hstill : ¬r.Moves := by
      intro hm
      rw [hm.ended] at ended
      split at ended
      · cases ended
      · obtain ⟨failure, -, hraised⟩ := ended
        cases hraised
    exact h.congr stayed (or_iff_left hstill)
  | other command stayed =>
    have hstill : ¬r.Moves := by
      intro hm
      obtain ⟨target, rest, hargs⟩ := List.exists_cons_of_ne_nil hm.args
      exact command target rest (by rw [← hm.name, ← hargs])
    exact h.congr stayed (or_iff_left hstill)

theorem Linked.directed (hlinked : Linked s runs s') (hruns : ∀ r ∈ runs, r.Directs base)
    (h : start.Directed moved s.session) :
    start.Directed (moved ∨ ∃ r ∈ runs, r.Moves) s'.session := by
  induction hlinked generalizing moved with
  | nil kept => exact h.congr (.of_memory kept) (by simp)
  | @cons s s' r runs kept rest ih =>
    obtain ⟨hr, hrest⟩ := List.forall_mem_cons.1 hruns
    -- the first run may have moved the session; the rest goes on from there
    have hafter := hr.directed (h.congr (.of_memory kept) Iff.rfl)
    refine (ih hrest hafter).congr ⟨rfl, rfl⟩ ?_
    simp only [List.mem_cons, exists_eq_or_imp, or_assoc]

theorem Linked.exists_moves (hlinked : Linked s runs s') (hruns : ∀ r ∈ runs, r.Directs base)
    (hcwd : s'.session.cwd ≠ s.session.cwd) : ∃ r ∈ runs, r.Moves := by
  induction hlinked with
  | nil kept => exact absurd (State.Stayed.of_memory kept).cwd hcwd
  | @cons s s' r runs kept rest ih =>
    obtain ⟨hr, hrest⟩ := List.forall_mem_cons.1 hruns
    by_cases hrun : r.after.session.cwd = r.before.session.cwd
    · have hsame := hrun.trans (State.Stayed.of_memory kept).cwd
      obtain ⟨r', hr', hmoves⟩ := ih hrest (by rwa [hsame])
      exact ⟨r', List.mem_cons_of_mem r hr', hmoves⟩
    · exact ⟨r, List.mem_cons_self .., (hr.moves hrun).1⟩

namespace Shell

/-- Runs lines one after another, whatever becomes of them. -/
def runLines (sh : Shell) : List Text → State → State
  | [], s => s
  | line :: rest, s => sh.runLines rest (sh.runLine line s).2

/-- The runs of the stages of lines. -/
def linesRuns (sh : Shell) : List Text → State → List StageRun
  | [], _ => []
  | line :: rest, s => sh.lineRuns line s ++ sh.linesRuns rest (sh.runLine line s).2

variable (sh : Shell)

theorem linesRuns_linked (lines : List Text) (s : State) :
    Linked s (sh.linesRuns lines s) (sh.runLines lines s) := by
  induction lines generalizing s with
  | nil => exact .nil rfl
  | cons line rest ih => exact (sh.lineRuns_traced line s).linked.append (ih _)

theorem linesRuns_genuine (lines : List Text) (s : State) :
    ∀ r ∈ sh.linesRuns lines s, r.Genuine sh := by
  induction lines generalizing s with
  | nil => exact fun r hr => nomatch hr
  | cons line rest ih =>
    intro r hr
    cases List.mem_append.1 hr with
    | inl hr => exact (sh.lineRuns_traced line s).genuine r hr
    | inr hr => exact ih _ r hr

/-- After any lines `cwd` is absolute and normalised, only `PWD` has changed in the environment, and
`PWD` is `cwd` from the first `cd` with an argument that succeeds; before it both are as at the
start. A further line changes `cwd` only by its `cd` stages that succeed, each to a directory that
exists then; any other `cd` changes nothing and returns 1, or raises if its message cannot be
written. -/
theorem directory_of_lines (sh : Shell) (hstandard : sh.builtins = Builtin.standard)
    (hbase : Path.isAbsolute sh.base = true) (cwd : Text) (env : Environment) (stdin : Bytes)
    (history : List Text) (files : FileSystem) (lines : List Text) :
    let s₀ : State := { session := Session.start sh.base cwd env stdin history, files }
    let s := sh.runLines lines s₀
    s₀.session.Directed (∃ r ∈ sh.linesRuns lines s₀, r.Moves) s.session ∧
      ∀ line, Linked s (sh.lineRuns line s) (sh.runLine line s).2 ∧
        ((sh.runLine line s).2.session.cwd ≠ s.session.cwd → ∃ r ∈ sh.lineRuns line s, r.Moves) ∧
        ∀ r ∈ sh.lineRuns line s, r.Genuine sh ∧ r.Directs sh.base ∧
          (r.after.session.cwd ≠ r.before.session.cwd →
            r.Moves ∧ r.before.files.isDirectory sh.base r.after.session.cwd = true) := by
  intro s₀ s
  have hstart : s₀.session.Directed False s₀.session :=
    ⟨Session.settled_start hbase cwd env stdin history, fun _ _ => rfl, fun _ => ⟨rfl, rfl⟩,
      False.elim⟩
  refine ⟨?_, fun line => ⟨(sh.lineRuns_traced line s).linked, ?_, fun r hr => ?_⟩⟩
  · have hruns : ∀ r ∈ sh.linesRuns lines s₀, r.Directs sh.base := fun r hr =>
      StageRun.directs_of_genuine hstandard (sh.linesRuns_genuine lines s₀ r hr)
    have h := (sh.linesRuns_linked lines s₀).directed hruns hstart
    exact h.congr ⟨rfl, rfl⟩ (by simp)
  · have hruns : ∀ r ∈ sh.lineRuns line s, r.Directs sh.base := fun r hr =>
      StageRun.directs_of_genuine hstandard ((sh.lineRuns_traced line s).genuine r hr)
    exact (sh.lineRuns_traced line s).linked.exists_moves hruns
  · have hgenuine := (sh.lineRuns_traced line s).genuine r hr
    have hdirects := StageRun.directs_of_genuine hstandard hgenuine
    exact ⟨hgenuine, hdirects, hdirects.moves⟩

/-- A session in the root directory, which is its home, where there is one other directory. -/
def atHome : State where
  session := Session.start plain.base [] [("HOME".runes, [.char '/'])] [] []
  files := standing.files

theorem directory_of_lines_cd :
    let s := plain.runLines ["cd d | cd nor".runes] atHome
    plain.builtins = Builtin.standard ∧ Path.isAbsolute plain.base = true ∧
      s.session.cwd = "/d".runes ∧ s.session.env.get? "PWD".runes = some "/d".runes ∧
      s.session.env.get? "HOME".runes = some [.char '/'] ∧
      Path.normalize s.session.cwd = s.session.cwd := by
  have hcwd : (plain.runLines ["cd d | cd nor".runes] atHome).session.cwd = "/d".runes := by
    decide +kernel
  have hmoves : ∃ r ∈ plain.linesRuns ["cd d | cd nor".runes] atHome, r.Moves := by
    decide +kernel
  have hdirected := (directory_of_lines plain rfl rfl [] [("HOME".runes, [.char '/'])] [] []
    standing.files ["cd d | cd nor".runes]).1
  have htold := hdirected.told hmoves
  have hothers := hdirected.others "HOME".runes (by decide)
  rw [← hcwd]
  exact ⟨rfl, rfl, rfl, htold, hothers, hdirected.settled.normal⟩

/-- What a `cd` tells of a directory that is not there is refused by the device without room, and so
the `cd` does not have status one. -/
theorem not_finished_of_missing :
    ¬∀ (sh : Shell), sh.builtins = Builtin.standard → Path.isAbsolute sh.base = true →
      ∀ (cwd : Text) (env : Environment) (stdin : Bytes) (history : List Text) (files : FileSystem)
        (lines : List Text) (line target : Text) (rest : List Text),
        let s := sh.runLines lines
          { session := Session.start sh.base cwd env stdin history, files }
        ∀ r ∈ sh.lineRuns line s, r.stage.command = ⟨"cd".runes, target :: rest⟩ →
          r.before.files.isDirectory sh.base (Builtin.destination r.before.session target) = false →
            r.ended = .finished 1 := by
  intro h
  let s : State := { session := Session.start plain.base [] [] [] [], files := roomless.files }
  have hruns : (plain.lineRuns "cd nosuch > /dev/full".runes s).map
      (fun r => (r.stage.command, r.before.files.isDirectory plain.base
        (Builtin.destination r.before.session "nosuch".runes), r.ended)) =
      [(⟨"cd".runes, ["nosuch".runes]⟩, false, .raised (.unwritable .noSpace))] := by
    decide +kernel
  obtain ⟨r, hr, hfacts⟩ := List.mem_map.1 (hruns ▸ List.mem_singleton_self _)
  simp only [Prod.mk.injEq] at hfacts
  obtain ⟨hcommand, hmissing, hended⟩ := hfacts
  have hone := h plain rfl rfl [] [] [] [] roomless.files [] "cd nosuch > /dev/full".runes
    "nosuch".runes [] r hr hcommand hmissing
  rw [hended] at hone
  cases hone

end Shell
end PipelineShell
