import PipelineShell.Builtin.Standard
import PipelineShell.Interaction
import PipelineShell.Proofs.Completion.Trie
import PipelineShell.Proofs.Execution.Rejection
import PipelineShell.Proofs.Execution.Saying
import PipelineShell.Proofs.SearchPath
import PipelineShell.Proofs.Text.Utf8

/-!
# What a name stands for

`_resolve_stages`, `type` and `build_completer` on names without a slash: the first two look one
name up in `PATH`, the last lists the directories.
-/

namespace PipelineShell

/-- In this state the behaviour comes to writing one line and ending with a status, wherever its
output leads. -/
def Behaviour.Says (sh : Shell) (s : State) (b : Behaviour) (line : Text) (status : Int) : Prop :=
  ∀ w, b.run sh.base sh.names w s = (Behaviour.say line (.done status)).run sh.base sh.names w s

namespace Behaviour
variable {sh : Shell} {s : State} {b : Behaviour} {line line' : Text} {status status' : Int}

theorem Says.returned_iff (h : b.Says sh s line status) {w : Wiring} (hw : w.sink.isOpen = true)
    (code : Int) :
    (b.run sh.base sh.names w s).1 = .returned code ↔ code = status ∧ w.sink.Tells line := by
  rw [h w]
  have hsaid := (say_done sh.base sh.names line hw status s).2
  split at hsaid
  · next htells => rw [hsaid]; simp [htells, eq_comm]
  · next htells =>
    obtain ⟨failure, -, hraised⟩ := hsaid
    rw [hraised]
    simp [htells]

theorem Says.line_unique (h : b.Says sh s line status) (h' : b.Says sh s line' status')
    (hwhole : line'.IsWhole) : line = line' := by
  -- written to the session, the line can be read off what has been added
  let w : Wiring := ⟨.session, .session .stdout, .session .stderr⟩
  have hsame := (h w).symm.trans (h' w)
  obtain ⟨sink', t', hwrite', hrun'⟩ :=
    say_of_tells sh.base sh.names (.done status') (w := w) ⟨hwhole, rfl⟩ s
  by_cases hline : line.IsWhole
  · obtain ⟨sink, t, hwrite, hrun⟩ :=
      say_of_tells sh.base sh.names (.done status) (w := w) ⟨hline, rfl⟩ s
    have hstate : t = t' := by
      rw [hrun, hrun'] at hsame
      exact congrArg (fun out : Ended × Wiring × State => out.2.2) hsame
    have ht : s.emit .stdout line.lineBytes = t := congrArg Prod.snd (Except.ok.inj hwrite)
    have ht' : s.emit .stdout line'.lineBytes = t' := congrArg Prod.snd (Except.ok.inj hwrite')
    have hbytes : s.session.stdout ++ line.lineBytes = s.session.stdout ++ line'.lineBytes :=
      congrArg (fun u : State => u.session.stdout) (ht.trans (hstate.trans ht'.symm))
    exact Text.lineBytes_injective hline hwhole (List.append_cancel_left hbytes)
  · obtain ⟨failure, sink, -, hrun⟩ :=
      say_of_not_tells sh.base sh.names (.done status) (w := w) rfl (fun h => hline h.whole) s
    rw [hrun, hrun'] at hsame
    cases congrArg Prod.fst hsame

end Behaviour

/-- What `type` says of a name that stands for this stage. -/
def Stage.told : Stage → Text
  | .builtin c _ => c.name ++ " is a shell builtin".runes
  | .external c executable => c.name ++ " is ".runes ++ executable

namespace Shell
variable {sh : Shell} {s : State} {name : Text} {args : List Text}

/-! ### The look-up -/

theorem stages_singleton (c : Command) :
    sh.stages s [c] =
      match sh.stage? s c with
      | none => .error c.name
      | some stage => .ok [stage] := by
  cases h : sh.stage? s c <;> simp only [stages, h]

theorem stages_singleton_eq_ok_iff (c : Command) (stage : Stage) :
    sh.stages s [c] = .ok [stage] ↔ sh.stage? s c = some stage := by
  rw [stages_singleton]
  cases sh.stage? s c <;> simp

theorem isSome_builtin?_iff : (sh.builtin? name).isSome ↔ name ∈ sh.names := by
  simp [builtin?, names]

/-- A name stands for a builtin, or else for a program that is found, or else for nothing. -/
theorem stage?_cases (sh : Shell) (s : State) (name : Text) (args : List Text) :
    (∃ b, sh.stage? s ⟨name, args⟩ = some (.builtin ⟨name, args⟩ b) ∧ name ∈ sh.names) ∨
      (∃ path, sh.stage? s ⟨name, args⟩ = some (.external ⟨name, args⟩ path) ∧
        name ∉ sh.names ∧ sh.program? s name = some path) ∨
      (sh.stage? s ⟨name, args⟩ = none ∧ name ∉ sh.names ∧ sh.program? s name = none) := by
  have hnames : (sh.builtin? name).isSome ↔ name ∈ sh.names := isSome_builtin?_iff
  unfold stage?
  cases hb : sh.builtin? name with
  | some b =>
    rw [hb] at hnames
    exact .inl ⟨b, rfl, hnames.1 rfl⟩
  | none =>
    rw [hb] at hnames
    have hnot : name ∉ sh.names := fun h => by simpa using hnames.2 h
    cases hp : sh.program? s name with
    | some path => exact .inr (.inl ⟨path, rfl, hnot, rfl⟩)
    | none => exact .inr (.inr ⟨rfl, hnot, rfl⟩)

/-! ### What `type` says -/

theorem type_says_builtin (h : name ∈ sh.names) (more : List Text) :
    (Builtin.type (name :: more)).Says sh s (name ++ " is a shell builtin".runes) 0 := by
  intro w
  simp only [Builtin.type, Behaviour.run, h, ↓reduceIte]

theorem type_says_path (h : name ∉ sh.names) {path : Text} (hpath : sh.program? s name = some path)
    (more : List Text) :
    (Builtin.type (name :: more)).Says sh s (name ++ " is ".runes ++ path) 0 := by
  intro w
  unfold program? at hpath
  simp only [Builtin.type, Behaviour.run, h, hpath, ↓reduceIte]

theorem type_says_not_found (h : name ∉ sh.names) (hpath : sh.program? s name = none)
    (more : List Text) :
    (Builtin.type (name :: more)).Says sh s (name ++ ": not found".runes) 1 := by
  intro w
  unfold program? at hpath
  simp only [Builtin.type, Behaviour.run, h, hpath, ↓reduceIte]

/-- What `type` says of a name is fixed by what the look-up takes it for. -/
theorem type_says_told {stage : Stage} (h : sh.stage? s ⟨name, args⟩ = some stage)
    (more : List Text) : (Builtin.type (name :: more)).Says sh s stage.told 0 := by
  rcases sh.stage?_cases s name args with
    ⟨b, hstage, hin⟩ | ⟨path, hstage, hnot, hprogram⟩ | ⟨hstage, -, -⟩
  · rw [hstage] at h
    cases h
    exact type_says_builtin hin more
  · rw [hstage] at h
    cases h
    exact type_says_path hnot hprogram more
  · rw [hstage] at h
    cases h

/-! ### What completion offers -/

/-- All directories of a search path can be listed. -/
def Listable (sh : Shell) (s : State) : Prop :=
  ∀ p, s.session.searchPath = some p → ∀ directory ∈ SearchPath.directories p,
    SearchPath.Listable s.files sh.base directory

theorem completer_contains_iff (hfiles : s.files.Grounded)
    (hpath : SearchPath.Proper s.session.searchPath) (hlist : sh.Listable s) (hname : name ≠ [])
    (hslash : .char '/' ∉ name) (hread : Text.ofStored name.stored = name) :
    (∃ c, sh.completer s = .ok c ∧ c.trie.contains name = true) ↔
      name ∈ sh.names ∨ (sh.program? s name).isSome := by
  obtain ⟨found, hfound, hmem⟩ :=
    SearchPath.mem_programs_iff s.files sh.base name hpath
  have hin (p : Text) (hp : s.session.searchPath = some p) (hne : p ≠ []) (directory : Text)
      (hdirectory : directory ∈ SearchPath.directories p) :
      name ∈ SearchPath.programsIn s.files sh.base directory ↔
        s.files.isExecutable sh.base (Path.join directory name) = true := by
    have hdir : directory ≠ [] := fun h => (hpath p hp hne).1 (h ▸ hdirectory)
    exact SearchPath.mem_programsIn_iff hfiles (hlist p hp directory hdirectory) hdir hname hslash
      hread
  have hscanned : name ∈ found ↔ (sh.program? s name).isSome := by
    unfold program?
    rw [hmem, SearchPath.isSome_locate_iff hname hslash]
    constructor
    · rintro ⟨p, hp, hne, directory, hdirectory, hprogram⟩
      exact ⟨p, hp, hne, directory, hdirectory, (hin p hp hne directory hdirectory).1 hprogram⟩
    · rintro ⟨p, hp, hne, directory, hdirectory, hexec⟩
      exact ⟨p, hp, hne, directory, hdirectory, (hin p hp hne directory hdirectory).2 hexec⟩
  unfold completer
  rw [hfound]
  simp only [Except.map, Except.ok.injEq, exists_eq_left', Completer.ofList,
    Trie.contains_ofList, List.mem_append, hscanned]
  exact Or.comm

/-- `_resolve_stages`, `type` and `build_completer` agree on what is a command, and the first two on
what it stands for. `type` fails only if its line cannot be written. The completer knows a name only
if its directory can be listed and lists it as it is spelled. -/
theorem commands_agree (sh : Shell) (s : State) (hbase : Path.isAbsolute sh.base = true)
    (hfiles : s.files.Grounded) (hpath : SearchPath.Proper s.session.searchPath) (name : Text)
    (hname : name ≠ []) (hslash : .char '/' ∉ name) (args more : List Text) (w : Wiring)
    (hw : w.sink.isOpen = true) :
    (((Builtin.type (name :: more)).run sh.base sh.names w s).1 = .returned 0 ↔
      ∃ stage, sh.stages s [⟨name, args⟩] = .ok [stage] ∧ w.sink.Tells stage.told) ∧
    (sh.Listable s → Text.ofStored name.stored = name →
      ((∃ stage, sh.stages s [⟨name, args⟩] = .ok [stage]) ↔
        ∃ c, sh.completer s = .ok c ∧ c.trie.contains name = true)) ∧
    (name.IsWhole →
      ((∃ b, sh.stages s [⟨name, args⟩] = .ok [.builtin ⟨name, args⟩ b]) ↔
        ∃ status,
          (Builtin.type (name :: more)).Says sh s (name ++ " is a shell builtin".runes) status)) ∧
    (∀ stage, sh.stages s [⟨name, args⟩] = .ok [stage] →
      (Builtin.type (name :: more)).Says sh s stage.told 0) := by
  simp only [stages_singleton_eq_ok_iff]
  have hwhole (h : name.IsWhole) : (name ++ " is a shell builtin".runes).IsWhole := by simp [h]
  have htold (stage : Stage) (h : sh.stage? s ⟨name, args⟩ = some stage) :=
    type_says_told h more
  refine ⟨?_, fun hlist hread => ?_, fun hencoded => ?_, htold⟩
  · cases hstage : sh.stage? s ⟨name, args⟩ with
    | some stage => simp [(htold stage hstage).returned_iff hw]
    | none =>
      rcases sh.stage?_cases s name args with ⟨b, h, -⟩ | ⟨path, h, -, -⟩ | ⟨-, hnot, hprogram⟩
      · simp [h] at hstage
      · simp [h] at hstage
      · simp [(type_says_not_found hnot hprogram more).returned_iff hw]
  · rw [completer_contains_iff hfiles hpath hlist hname hslash hread]
    rcases sh.stage?_cases s name args with
      ⟨b, hstage, hin⟩ | ⟨path, hstage, hnot, hprogram⟩ | ⟨hstage, hnot, hprogram⟩
    · simp [hstage, hin]
    · simp [hstage, hprogram]
    · simp [hstage, hnot, hprogram]
  · rcases sh.stage?_cases s name args with
      ⟨b, hstage, hin⟩ | ⟨path, hstage, hnot, hprogram⟩ | ⟨hstage, hnot, hprogram⟩
    · exact iff_of_true ⟨b, hstage⟩ ⟨0, type_says_builtin hin more⟩
    · refine iff_of_false (by simp [hstage]) ?_
      rintro ⟨status, hbuiltin⟩
      -- the path would be `a shell builtin`, which is not absolute
      have hline := (type_says_path hnot hprogram more).line_unique hbuiltin (hwhole hencoded)
      have habsolute := SearchPath.isAbsolute_of_locate hbase hslash hprogram
      have hsame : path = "a shell builtin".runes := by
        rw [List.append_assoc] at hline
        exact List.append_cancel_left (List.append_cancel_left hline :
          " is ".runes ++ path = " is ".runes ++ "a shell builtin".runes)
      rw [hsame] at habsolute
      cases habsolute
    · refine iff_of_false (by simp [hstage]) ?_
      rintro ⟨status, hbuiltin⟩
      have hline := (type_says_not_found hnot hprogram more).line_unique hbuiltin (hwhole hencoded)
      cases List.append_cancel_left hline

/-- A search path with a directory that is missing and one with a program and a link to it. -/
def linked : State where
  session := { cwd := [.char '/'], env := [("PATH".runes, "/nowhere:/d".runes)] }
  files :=
    { entries := [(.named ["d".runes], .directory Mode.directory),
        (.named ["d".runes, "run".runes], .file {} Mode.program),
        (.named ["d".runes, "go".runes], .link "run".runes)] }

theorem commands_agree_link :
    linked.files.Grounded ∧ SearchPath.Proper linked.session.searchPath ∧ plain.Listable linked ∧
      (Builtin.type ["go".runes]).Says plain linked "go is /d/go".runes 0 ∧
      ∃ c, plain.completer linked = .ok c ∧ c.trie.contains "go".runes = true := by
  have hfiles : linked.files.Grounded := by
    refine FileSystem.grounded_of_entries fun entry hentry => ⟨Mode.directory, ?_⟩
    simp only [linked, List.mem_cons, List.not_mem_nil, or_false] at hentry
    rcases hentry with rfl | rfl | rfl <;> rfl
  have hpath : SearchPath.Proper linked.session.searchPath := by
    intro p hp _
    have hvalue : "/nowhere:/d".runes = p := Option.some.inj hp
    rw [← hvalue]
    decide
  have hlist : plain.Listable linked := fun p hp directory hdirectory place hplace =>
    List.not_mem_nil
  have hprogram : plain.program? linked "go".runes = some "/d/go".runes := by decide +kernel
  have hfound : plain.stages linked [⟨"go".runes, []⟩] =
      .ok [.external ⟨"go".runes, []⟩ "/d/go".runes] := by
    rw [stages_singleton_eq_ok_iff, stage?, hprogram]
    rfl
  obtain ⟨-, hoffered, -, htells⟩ := commands_agree plain linked rfl hfiles hpath "go".runes
    (by decide) (by decide) [] [] ⟨.session, .session .stdout, .session .stderr⟩ rfl
  exact ⟨hfiles, hpath, hlist, htells _ hfound, (hoffered hlist rfl).1 ⟨_, hfound⟩⟩

/-- The same when the directory with the programs cannot be listed. -/
def hidden : State :=
  { linked with files := { linked.files with unlisted := [.named ["d".runes]] } }

/-- A search path with a program whose name is one character of two bytes. -/
def accented : State :=
  { linked with files :=
    { entries := [(.named ["d".runes], .directory Mode.directory),
        (.named ["d".runes, "é".runes], .file {} Mode.program)] } }

/-- A builtin is found, but `type` cannot say so to a device without room. A program is found but
not offered in a directory that cannot be listed, nor when its name is told byte by byte. -/
theorem commands_disagree :
    ((∃ stage, plain.stages roomless [⟨"echo".runes, []⟩] = .ok [stage]) ∧
      (plain.runLine "type echo > /dev/full".runes roomless).1 =
        .raised (.unwritable .noSpace)) ∧
    ((∃ stage, plain.stages hidden [⟨"go".runes, []⟩] = .ok [stage]) ∧
      ¬∃ c, plain.completer hidden = .ok c ∧ c.trie.contains "go".runes = true) ∧
    let name : Text := [.lone 0x4c3, .lone 0x4a9]
    (∃ stage, plain.stages accented [⟨name, []⟩] = .ok [stage]) ∧
      ¬∃ c, plain.completer accented = .ok c ∧ c.trie.contains name = true := by
  have hfound {s : State} {name : Text} (hname : plain.builtin? name = none) (path : Text)
      (h : plain.program? s name = some path) :
      ∃ stage, plain.stages s [⟨name, []⟩] = .ok [stage] :=
    ⟨.external ⟨name, []⟩ path, by
      rw [stages_singleton_eq_ok_iff, stage?, hname, h]
      rfl⟩
  have hnot {s : State} {name : Text}
      (h : (plain.completer s).toOption.any (·.trie.contains name) = false) :
      ¬∃ c, plain.completer s = .ok c ∧ c.trie.contains name = true := by
    rintro ⟨c, hc, hcontains⟩
    simp [hc, hcontains, Except.toOption] at h
  refine ⟨⟨⟨_, rfl⟩, by decide +kernel⟩, ⟨?_, ?_⟩, ?_, ?_⟩
  · exact hfound rfl "/d/go".runes (by decide +kernel)
  · exact hnot (by decide +kernel)
  · exact hfound rfl ("/d/".runes ++ [.lone 0x4c3, .lone 0x4a9]) (by decide +kernel)
  · exact hnot (by decide +kernel)

end Shell
end PipelineShell
