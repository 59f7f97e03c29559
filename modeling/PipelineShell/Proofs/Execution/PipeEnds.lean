import PipelineShell.Execution.Together

/-!
# Pipe ends held by `_run_shell_group`

Each reading end (`prev_stdout`) is closed once, when the next stage has been started or when the
function returns.
-/

namespace PipelineShell

/-- The events while stages are started one after another from number `stage` on, when the shell
holds the end of the pipe that stage `held` writes to. A stage is started or refused. -/
def startEvents (stage : Nat) (held : Option Nat) : List (Option Refusal) → List PipeEvent
  | [] | some _ :: _ => held.toList.map .closed
  | none :: rest =>
    let next := if rest.isEmpty then none else some stage
    .started stage :: next.toList.map .held ++ held.toList.map .closed ++
      startEvents (stage + 1) next rest

/-- How many stages are started: those in front of the first one that is refused. -/
def startedCount (fates : List (Option Refusal)) : Nat := (fates.takeWhile Option.isNone).length

/-- After these events the shell holds the reading end of the pipe that a stage writes to. -/
def Holding (events : List PipeEvent) (stage : Nat) : Prop :=
  events.count (.closed stage) < events.count (.held stage)

/-- What the shell has done about the ends of pipes when so many of so many stages are running. -/
structure Tidy (running stages : Nat) (events : List PipeEvent) : Prop where
  started : ∀ k, events.count (.started k) = if k < running then 1 else 0
  /-- It got the end of the pipe behind each running stage, the last of all apart. -/
  held : ∀ k, events.count (.held k) = if k < running ∧ k + 1 < stages then 1 else 0
  /-- Each of these has been closed once, and no other. -/
  closed : ∀ k, events.count (.closed k) = if k < running ∧ k + 1 < stages then 1 else 0
  /-- None was closed before the shell had it. -/
  owned : ∀ before, before <+: events → ∀ k, before.count (.closed k) ≤ before.count (.held k)
  /-- From the moment on at which a stage had been started, and the end that it reads from had been
  closed, the shell held no end of a pipe to this stage or to one before it. -/
  handedOver : ∀ before, before <+: events → ∀ k, .started k ∈ before →
    (0 < k → .closed (k - 1) ∈ before) → ∀ j, Holding before j → k ≤ j

/-- In which order two events may come: no stage is started before the end has been closed that the
stage before it reads from, and no end is closed before the shell has it. -/
def PipeEvent.InOrder : PipeEvent → PipeEvent → Prop
  | .started k, .closed j => k ≤ j + 1
  | .closed j, .held k => j < k
  | a, b => a ≠ b

/-- Whether an event comes when the stages from number `stage` on are started, and those below
`running` are in the end running of all those below `stages`. -/
def PipeEvent.Due (stage : Nat) (held : Option Nat) (running stages : Nat) : PipeEvent → Prop
  | .started k => stage ≤ k ∧ k < running
  | .held k => stage ≤ k ∧ k < running ∧ k + 1 < stages
  | .closed k => held = some k ∨ stage ≤ k ∧ k < running ∧ k + 1 < stages

variable {stage running stages : Nat} {held : Option Nat} {fates : List (Option Refusal)}
  {events : List PipeEvent} {e : PipeEvent}

@[simp] theorem startedCount_nil : startedCount [] = 0 := rfl

@[simp] theorem startedCount_refused (refusal : Refusal) (rest : List (Option Refusal)) :
    startedCount (some refusal :: rest) = 0 := rfl

@[simp] theorem startedCount_started (rest : List (Option Refusal)) :
    startedCount (none :: rest) = startedCount rest + 1 := rfl

theorem startedCount_le (fates : List (Option Refusal)) : startedCount fates ≤ fates.length :=
  (List.takeWhile_sublist _).length_le

/-! ### The events of a start -/

theorem startEvents_last (stage : Nat) (held : Option Nat) :
    startEvents stage held [none] = .started stage :: held.toList.map .closed := by
  simp [startEvents]

theorem startEvents_more (stage : Nat) (held : Option Nat) {rest : List (Option Refusal)}
    (h : rest ≠ []) : startEvents stage held (none :: rest) = .started stage :: .held stage ::
      (held.toList.map .closed ++ startEvents (stage + 1) (some stage) rest) := by
  simp [startEvents, h]

theorem mem_closed : e ∈ held.toList.map PipeEvent.closed ↔ ∃ k, held = some k ∧ e = .closed k := by
  cases held <;> simp

theorem mem_startEvents : e ∈ startEvents stage held fates ↔
    e.Due stage held (stage + startedCount fates) (stage + fates.length) := by
  induction fates generalizing stage held with
  | nil =>
    rw [startEvents, mem_closed]
    cases e <;> simp [PipeEvent.Due] <;> omega
  | cons fate rest ih =>
    cases fate with
    | some refusal =>
      rw [startEvents, mem_closed]
      cases e <;> simp [PipeEvent.Due] <;> omega
    | none =>
      by_cases hlast : rest = []
      · rw [hlast, startEvents_last, List.mem_cons, mem_closed]
        cases e <;> simp [PipeEvent.Due] <;> omega
      · have hmore : 0 < rest.length := List.length_pos_iff.2 hlast
        rw [startEvents_more stage held hlast, List.mem_cons, List.mem_cons, List.mem_append,
          mem_closed, ih]
        cases e <;> simp [PipeEvent.Due] <;> grind

/-- A stage is started, then the shell gets the end of the pipe behind it, then it closes the one
that it held before, and all that comes later is about later stages. -/
theorem pairwise_startEvents (hheld : ∀ k ∈ held, k + 1 = stage) :
    (startEvents stage held fates).Pairwise PipeEvent.InOrder := by
  have hclosed : (held.toList.map PipeEvent.closed).Pairwise PipeEvent.InOrder := by
    cases held <;> simp
  have hbefore : ∀ e ∈ held.toList.map PipeEvent.closed,
      PipeEvent.InOrder (.started stage) e ∧ PipeEvent.InOrder (.held stage) e := by
    intro e he
    obtain ⟨k, hk, rfl⟩ := mem_closed.1 he
    exact ⟨Nat.le_of_eq (hheld k hk).symm, nofun⟩
  induction fates generalizing stage held with
  | nil => exact hclosed
  | cons fate rest ih =>
    cases fate with
    | some refusal => exact hclosed
    | none =>
      by_cases hlast : rest = []
      · rw [hlast, startEvents_last, List.pairwise_cons]
        exact ⟨fun e he => (hbefore e he).1, hclosed⟩
      · have hrest : (startEvents (stage + 1) (some stage) rest).Pairwise PipeEvent.InOrder :=
          ih (by simp) (by simp) (by simp [PipeEvent.InOrder])
        have hlater : ∀ e ∈ startEvents (stage + 1) (some stage) rest,
            PipeEvent.InOrder (.started stage) e ∧ PipeEvent.InOrder (.held stage) e ∧
              ∀ k < stage, PipeEvent.InOrder (.closed k) e := by
          intro e he
          have hdue := mem_startEvents.1 he
          cases e <;> simp [PipeEvent.InOrder, PipeEvent.Due] at hdue ⊢ <;> grind
        rw [startEvents_more stage held hlast, List.pairwise_cons, List.pairwise_cons,
          List.pairwise_append]
        refine ⟨fun e he => ?_, fun e he => ?_, hclosed, hrest, fun e he e' he' => ?_⟩
        · rw [List.mem_cons, List.mem_append] at he
          rcases he with rfl | he | he
          · nofun
          · exact (hbefore e he).1
          · exact (hlater e he).1
        · rcases List.mem_append.1 he with he | he
          · exact (hbefore e he).2
          · exact (hlater e he).2.1
        · obtain ⟨k, hk, rfl⟩ := mem_closed.1 he
          exact (hlater e' he').2.2 k (by have := hheld k hk; omega)

theorem PipeEvent.InOrder.ne {a b : PipeEvent} (h : a.InOrder b) : a ≠ b := by
  cases a <;> cases b <;> simp_all [InOrder]

/-! ### A whole start -/

theorem nodup_startEvents (fates : List (Option Refusal)) : (startEvents 0 none fates).Nodup :=
  (pairwise_startEvents (by simp)).imp PipeEvent.InOrder.ne

theorem count_startEvents (fates : List (Option Refusal)) (e : PipeEvent) :
    (startEvents 0 none fates).count e = if e ∈ startEvents 0 none fates then 1 else 0 :=
  (nodup_startEvents fates).count

theorem due_startEvents : e ∈ startEvents 0 none fates ↔
    e.Due 0 none (startedCount fates) fates.length := by
  rw [mem_startEvents, Nat.zero_add, Nat.zero_add]

theorem closed_mem_iff_held_mem {k : Nat} :
    .closed k ∈ startEvents 0 none fates ↔ .held k ∈ startEvents 0 none fates := by
  simp [due_startEvents, PipeEvent.Due]

theorem holding_iff {events : List PipeEvent} (h : events.Nodup) {k : Nat} :
    Holding events k ↔ .held k ∈ events ∧ .closed k ∉ events := by
  rw [Holding, h.count, h.count]
  by_cases hheld : .held k ∈ events <;> by_cases hclosed : .closed k ∈ events <;>
    simp [hheld, hclosed]

section
variable {before after : List PipeEvent} (hsplit : before ++ after = startEvents 0 none fates)
include hsplit

theorem nodup_of_split : before.Nodup := by
  have hall : (before ++ after).Nodup := hsplit ▸ nodup_startEvents fates
  exact (List.nodup_append.1 hall).1

theorem inOrder_of_split {a b : PipeEvent} (ha : a ∈ before) (hb : b ∈ after) : a.InOrder b := by
  have hall : (before ++ after).Pairwise PipeEvent.InOrder :=
    hsplit ▸ pairwise_startEvents (by simp)
  exact (List.pairwise_append.1 hall).2.2 a ha b hb

theorem held_of_closed {k : Nat} (h : .closed k ∈ before) : .held k ∈ before := by
  have hheld : .held k ∈ before ++ after := by
    rw [hsplit, ← closed_mem_iff_held_mem, ← hsplit]
    exact List.mem_append_left _ h
  refine (List.mem_append.1 hheld).resolve_right fun hafter => ?_
  exact Nat.lt_irrefl k (inOrder_of_split hsplit h hafter)

/-- An end that the shell holds will be closed before another stage but the next one is started. -/
theorem le_of_holding {j k : Nat} (hj : Holding before j) (hstarted : .started k ∈ before) :
    k ≤ j + 1 := by
  obtain ⟨hheld, hopen⟩ := (holding_iff (nodup_of_split hsplit)).1 hj
  have hclosed : .closed j ∈ before ++ after := by
    rw [hsplit, closed_mem_iff_held_mem, ← hsplit]
    exact List.mem_append_left _ hheld
  exact inOrder_of_split hsplit hstarted ((List.mem_append.1 hclosed).resolve_left hopen)

end

theorem tidy_startEvents (fates : List (Option Refusal)) :
    Tidy (startedCount fates) fates.length (startEvents 0 none fates) := by
  refine ⟨fun k => ?_, fun k => ?_, fun k => ?_, ?_, ?_⟩
  · simp [count_startEvents, due_startEvents, PipeEvent.Due]
  · simp [count_startEvents, due_startEvents, PipeEvent.Due]
  · simp [count_startEvents, due_startEvents, PipeEvent.Due]
  · rintro before ⟨after, hsplit⟩ k
    have hnodup := nodup_of_split hsplit
    rw [hnodup.count, hnodup.count]
    split
    · next hclosed => exact Nat.le_of_eq (if_pos (held_of_closed hsplit hclosed)).symm
    · exact Nat.zero_le _
  · rintro before ⟨after, hsplit⟩ k hstarted hclosed j hj
    have hnext := le_of_holding hsplit hj hstarted
    refine Nat.le_of_not_lt fun hlt => ?_
    have hk : k - 1 = j := by omega
    exact ((holding_iff (nodup_of_split hsplit)).1 hj).2 (hk ▸ hclosed (by omega))

example : startEvents 0 none [none, none, some (.unfit .embeddedNul), none] =
    [.started 0, .held 0, .started 1, .held 1, .closed 0, .closed 1] := by rfl

/-! ### The programs of a shell -/

namespace Shell

/-- How a program fares when it is started. -/
def fate (sh : Shell) (s : State) (files : List Place) (command : Command × Text) :
    Option Refusal :=
  match sh.programs.launch (invocation s files command.1 command.2) s.files with
  | .error refusal => some refusal
  | .ok _ => none

theorem startAll_events (sh : Shell) (s : State) (files : List Place) (sink errors : Outlet)
    (commands : List (Command × Text)) (stage : Nat) (held : Option Nat) :
    (sh.startAll s files sink errors stage held commands).events =
        startEvents stage held (commands.map (sh.fate s files)) ∧
      (sh.startAll s files sink errors stage held commands).processes.length =
        startedCount (commands.map (sh.fate s files)) := by
  induction commands generalizing stage held with
  | nil => exact ⟨rfl, rfl⟩
  | cons first rest ih =>
    obtain ⟨c, executable⟩ := first
    rw [startAll, List.map_cons, fate]
    cases hlaunch : sh.programs.launch (invocation s files c executable) s.files with
    | error refusal => simp only [startEvents, startedCount_refused, List.length_nil, and_self]
    | ok process =>
      obtain ⟨hevents, hlength⟩ := ih (stage + 1) (if rest.isEmpty then none else some stage)
      simp only [startEvents, List.isEmpty_map, startedCount_started, List.length_cons, hevents,
        hlength, and_self]

/-- However the programs fare when they are started, all ends that the shell gets are closed in the
end, each once, and none is held longer than until the next program has it. -/
theorem runTogether_tidy (sh : Shell) (held : List Place) (commands : List (Command × Text))
    (sink errors : Outlet) (s : State) :
    (∀ fates, Tidy (startedCount fates) fates.length (startEvents 0 none fates)) ∧
      let together := sh.runTogether held commands sink errors s
      together.2 = startEvents 0 none (commands.map (sh.fate s held)) ∧
        Tidy together.1.started.length commands.length together.2 := by
  refine ⟨tidy_startEvents, ?_⟩
  intro together
  obtain ⟨hevents, hlength⟩ := sh.startAll_events s held sink errors commands 0 none
  have htogether : together.2 = startEvents 0 none (commands.map (sh.fate s held)) := hevents
  have hstages : (commands.map (sh.fate s held)).length = commands.length := List.length_map ..
  have hstarted : together.1.started.length = startedCount (commands.map (sh.fate s held)) := by
    have hrunning : together.1.started =
        (commands.take
          (sh.startAll s held sink errors 0 none commands).processes.length).map (·.1) := rfl
    rw [hrunning, hlength, List.length_map, List.length_take, ← hstages,
      Nat.min_eq_left (startedCount_le _)]
  refine ⟨htogether, ?_⟩
  rw [htogether, hstarted, ← hstages]
  exact tidy_startEvents _

end Shell
end PipelineShell
