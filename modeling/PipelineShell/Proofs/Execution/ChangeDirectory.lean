import PipelineShell.Proofs.Execution.Directory
import PipelineShell.Proofs.Execution.Naming
import PipelineShell.Proofs.Path.Joining

/-!
# Changing the directory step by step

`cd a` and then `cd b` is `cd` to the joined path. `cd ~/b` concatenates the home directory and
`/b`, which is the same unless the home directory is the root.
-/

namespace PipelineShell

namespace Environment

theorem set_set (env : Environment) (name value other : Text) :
    (env.set name value).set name other = env.set name other := by
  induction env with
  | nil => simp [set]
  | cons nv rest ih =>
    obtain ⟨n, v⟩ := nv
    by_cases hn : n = name
    · simp [set, hn]
    · simp [set, hn, ih]

end Environment

namespace Session

theorem enter_enter (s : Session) (directory other : Text) :
    (s.enter directory).enter other = s.enter other := by
  simp only [enter, Environment.set_set]

end Session

/-! ### Targets of a change -/

namespace Builtin

/-- A target in which no `~` stands for the home directory. -/
structure Literal (target : Text) : Prop where
  notHome : target ≠ [.char '~']
  notBelow : ¬[Rune.char '~', .char '/'] <+: target

variable {target more : Text}

theorem Literal.expandHome_eq (h : Literal target) (home : Option Text) :
    expandHome home target = target := by
  unfold expandHome
  split
  · exact absurd rfl h.notHome
  · exact absurd (List.prefix_append [Rune.char '~', .char '/'] _) h.notBelow
  · rfl

theorem expandHome_home (home : Text) : expandHome (some home) [.char '~'] = home := rfl

theorem expandHome_below (home rest : Text) :
    expandHome (some home) (.char '~' :: .char '/' :: rest) = home ++ .char '/' :: rest := rfl

theorem Literal.destination_eq (h : Literal target) (s : Session) :
    destination s target = s.resolve target := by
  rw [destination, h.expandHome_eq]

theorem Literal.join (h : Literal target) (hmore : Literal more) :
    Literal (Path.join target more) := by
  by_cases habs : Path.isAbsolute more = true
  · rw [Path.join_of_isAbsolute habs]
    exact hmore
  · rw [Bool.not_eq_true] at habs
    obtain ⟨tail, htail⟩ := Path.exists_join_eq_append habs target
    cases target with
    | nil =>
      rw [Path.join_of_relative habs]
      exact hmore
    | cons c rest =>
      rw [htail]
      cases rest with
      | nil =>
        have hc : c ≠ '~' := fun hc => h.notHome (by rw [hc])
        exact ⟨by simp [hc], by simp [hc.symm]⟩
      | cons d rest =>
        -- the first two characters are those of the target
        have hfront : ¬(c = '~' ∧ d = '/') := by
          rintro ⟨rfl, rfl⟩
          exact h.notBelow (List.prefix_append [Rune.char '~', .char '/'] rest)
        exact ⟨by simp, by simpa [eq_comm] using hfront⟩

end Builtin

/-! ### The command alone -/

/-- The command `cd` with one argument. -/
def Pipeline.cd (target : Text) : Pipeline := { stages := [⟨"cd".runes, [target]⟩] }

namespace Shell

/-- The command `cd` to this target succeeds and leads from one state to another. -/
structure Enters (sh : Shell) (target : Text) (s s' : State) : Prop where
  ended : (sh.runPipeline (.cd target) s).ended = .returned 0
  state : (sh.runPipeline (.cd target) s).state = s'

variable {sh : Shell} {s s' s₁ s₂ : State} {target a b : Text}

open Builtin (destination)

theorem runPipeline_of_builtin {c : Command} {b : Builtin} {ended : Ended}
    (hb : sh.builtin? c.name = some b)
    (hrun : (b c.args).run sh.base sh.names ⟨.session, .session .stdout, .session .stderr⟩ s =
      (ended, ⟨.session, .session .stdout, .session .stderr⟩, s')) :
    (sh.runPipeline { stages := [c] } s).ended = ended ∧
      (sh.runPipeline { stages := [c] } s).state = s' := by
  have hstages : sh.stages s [c] = .ok [.builtin c b] := by
    rw [stages_singleton_eq_ok_iff, stage?, hb]
  have hstage : sh.runStage [] (.builtin c b) ⟨.session, .session .stdout, .session .stderr⟩ s =
      (.ofEnded ended, ⟨.session, .session .stdout, .session .stderr⟩, s') := by
    simp only [runStage, hrun]
  have hmixed : sh.runStages [.builtin c b] (.session .stdout) (.session .stderr) s =
      sh.runInTurn [] 0 .session (.session .stdout) (.session .stderr) s [.builtin c b] := rfl
  rw [runPipeline_of_opened hstages rfl rfl, hmixed]
  simp only [runInTurn, hstage]
  cases ended <;> exact ⟨rfl, rfl⟩

/-- The command succeeds exactly if the target stands for a directory that is there, and then it is
in that directory. -/
theorem enters_iff (hcd : sh.builtin? "cd".runes = some Builtin.cd) :
    sh.Enters target s s' ↔
      s.files.isDirectory sh.base (destination s.session target) = true ∧
        s' = { s with session := s.session.enter (destination s.session target) } := by
  let w : Wiring := ⟨.session, .session .stdout, .session .stderr⟩
  cases hdir : s.files.isDirectory sh.base (destination s.session target) with
  | true =>
    have hrun := Builtin.cd_run_of_directory hdir sh.names [] w
    obtain ⟨hended, hstate⟩ :=
      runPipeline_of_builtin (c := ⟨"cd".runes, [target]⟩) hcd hrun
    constructor
    · rintro ⟨-, rfl⟩
      exact ⟨rfl, hstate⟩
    · rintro ⟨-, rfl⟩
      exact ⟨hended, hstate⟩
  | false =>
    -- what is told of the target is written, or has no encoding
    obtain ⟨ended, after, hrun, hnot⟩ : ∃ ended after,
        (Builtin.cd [target]).run sh.base sh.names w s = (ended, w, after) ∧
          ended ≠ .returned 0 := by
      rw [Builtin.cd_run_of_missing hdir sh.names [] w]
      by_cases htells : w.sink.Tells (Builtin.missingMessage (destination s.session target))
      · obtain ⟨sink, after, hwrite, hsaid⟩ :=
          Behaviour.say_of_tells sh.base sh.names (.done 1) htells s
        cases hwrite
        exact ⟨_, _, hsaid, by simp⟩
      · have hwhole := fun h => htells ⟨h, rfl⟩
        obtain ⟨e, he⟩ := Utf8.encode_of_not_isWhole (mt Text.isWhole_line.1 hwhole)
        exact ⟨.raised (.unencodable e), s, by simp only [Behaviour.say, he, Behaviour.run],
          by simp⟩
    obtain ⟨hended, -⟩ := runPipeline_of_builtin (c := ⟨"cd".runes, [target]⟩) hcd hrun
    constructor
    · rintro ⟨hzero, -⟩
      exact absurd (hended.symm.trans hzero) hnot
    · rintro ⟨h, -⟩
      cases h

/-! ### One change after the other -/

theorem Enters.append (hcd : sh.builtin? "cd".runes = some Builtin.cd) (h₁ : sh.Enters a s s₁)
    (h₂ : sh.Enters b s₁ s₂) :
    s.files.isDirectory sh.base (destination s₁.session b) = true ∧
      s₂ = { s with session := s.session.enter (destination s₁.session b) } := by
  obtain ⟨-, rfl⟩ := (enters_iff hcd).1 h₁
  obtain ⟨hdir, rfl⟩ := (enters_iff hcd).1 h₂
  exact ⟨hdir, by rw [Session.enter_enter]⟩

/-- From an absolute directory `resolve_path` is idempotent, and a path resolved from another is the
joined path. So two `cd` in a row are one to the joined target. -/
theorem resolve_composes (hcd : sh.builtin? "cd".runes = some Builtin.cd)
    (hcwd : Path.isAbsolute s.session.cwd = true) (a b : Text) :
    Path.Settled (s.session.resolve a) ∧
      s.session.resolve (s.session.resolve a) = s.session.resolve a ∧
      (∀ t : Session, t.cwd = s.session.resolve a →
        t.resolve b = s.session.resolve (Path.join a b)) ∧
      (Builtin.Literal a → Builtin.Literal b → ∀ s₁ s₂, sh.Enters a s s₁ → sh.Enters b s₁ s₂ →
        sh.Enters (Path.join a b) s s₂) := by
  have hsettled : Path.Settled (s.session.resolve a) := Path.settled_absolute hcwd a
  have hseen (t : Session) (ht : t.cwd = s.session.resolve a) :
      t.resolve b = s.session.resolve (Path.join a b) := by
    rw [Session.resolve, ht]
    exact Path.absolute_absolute hcwd a b
  refine ⟨hsettled, ?_, hseen, ?_⟩
  · rw [Session.resolve, Path.absolute_of_isAbsolute hsettled.absolute, hsettled.normal]
  · intro ha hb s₁ s₂ h₁ h₂
    obtain ⟨hdir, hstate⟩ := h₁.append hcd h₂
    have hsame : destination s₁.session b = destination s.session (Path.join a b) := by
      obtain ⟨-, rfl⟩ := (enters_iff hcd).1 h₁
      rw [hb.destination_eq, (ha.join hb).destination_eq]
      exact hseen _ (ha.destination_eq s.session)
    rw [hsame] at hdir hstate
    exact (enters_iff hcd).2 ⟨hdir, hstate⟩

theorem resolve_composes_slashes :
    plain.builtin? "cd".runes = some Builtin.cd ∧ Path.isAbsolute atHome.session.cwd = true ∧
      Path.Settled (atHome.session.resolve "//d//".runes) ∧
      Builtin.Literal "//d//".runes ∧ Builtin.Literal "..///d/.".runes ∧
      ∃ s₁ s₂, plain.Enters "//d//".runes atHome s₁ ∧ plain.Enters "..///d/.".runes s₁ s₂ ∧
        s₂.session.cwd = "//d".runes ∧ plain.Enters "//d//..///d/.".runes atHome s₂ := by
  let s₁ := (plain.runPipeline (.cd "//d//".runes) atHome).state
  let s₂ := (plain.runPipeline (.cd "..///d/.".runes) s₁).state
  have ha : Builtin.Literal "//d//".runes := ⟨by decide, by decide⟩
  have hb : Builtin.Literal "..///d/.".runes := ⟨by decide, by decide⟩
  have h₁ : plain.Enters "//d//".runes atHome s₁ := ⟨by decide +kernel, rfl⟩
  have h₂ : plain.Enters "..///d/.".runes s₁ s₂ := ⟨by decide +kernel, rfl⟩
  have hcd : plain.builtin? "cd".runes = some Builtin.cd := rfl
  have hcwd : Path.isAbsolute atHome.session.cwd = true := rfl
  obtain ⟨hsettled, -, -, hcomposes⟩ := resolve_composes hcd hcwd "//d//".runes "..///d/.".runes
  exact ⟨hcd, hcwd, hsettled, ha, hb, s₁, s₂, h₁, h₂, by decide +kernel,
    hcomposes ha hb s₁ s₂ h₁ h₂⟩

/-! ### Below the home directory -/

variable {home x : Text}

theorem destination_home (hhome : s.session.env.get? "HOME".runes = some home)
    (habs : Path.isAbsolute home = true) :
    destination s.session [.char '~'] = Path.normalize home := by
  rw [destination, hhome, Builtin.expandHome_home, Session.resolve,
    Path.absolute_of_isAbsolute habs]

theorem destination_below (hhome : s.session.env.get? "HOME".runes = some home)
    (habs : Path.isAbsolute home = true) (x : Text) :
    destination s.session (.char '~' :: .char '/' :: x) =
      Path.normalize (home ++ .char '/' :: x) := by
  have hwhole : Path.isAbsolute (home ++ .char '/' :: x) = true := by
    obtain ⟨rest, rfl⟩ := Path.exists_of_isAbsolute habs
    rfl
  rw [destination, hhome, Builtin.expandHome_below, Session.resolve,
    Path.absolute_of_isAbsolute hwhole]

/-- `cd ~` and then `cd` to a relative path is `cd` to the path behind `~/` exactly if the home
directory is neither `/` nor `//`. For these the two differ by one leading slash. -/
theorem home_composes (hcd : sh.builtin? "cd".runes = some Builtin.cd)
    (hhome : s.session.env.get? "HOME".runes = some home) (habs : Path.isAbsolute home = true)
    (hrelative : Path.isAbsolute x = false) (hx : Builtin.Literal x)
    (h₁ : sh.Enters [.char '~'] s s₁) (h₂ : sh.Enters x s₁ s₂) :
    (sh.Enters (.char '~' :: .char '/' :: x) s s₂ ↔
        home ≠ [.char '/'] ∧ home ≠ [.char '/', .char '/']) ∧
      (home = [.char '/'] →
        destination s.session (.char '~' :: .char '/' :: x) = .char '/' :: s₂.session.cwd) ∧
      (home = [.char '/', .char '/'] →
        s₂.session.cwd = .char '/' :: destination s.session (.char '~' :: .char '/' :: x)) := by
  obtain ⟨hdir, hstate⟩ := h₁.append hcd h₂
  have hthere : destination s₁.session x = Path.normalize (Path.join home x) := by
    obtain ⟨-, rfl⟩ := (enters_iff hcd).1 h₁
    rw [hx.destination_eq, destination_home hhome habs]
    exact Path.normalize_join_normalize habs x
  rw [hthere] at hdir hstate
  have hcwd : s₂.session.cwd = Path.normalize (Path.join home x) := by rw [hstate]; rfl
  have hbelow := destination_below hhome habs x
  have hone : home = [.char '/'] →
      destination s.session (.char '~' :: .char '/' :: x) = .char '/' :: s₂.session.cwd := by
    rintro rfl
    rw [hbelow, hcwd]
    exact Path.normalize_root_slash hrelative
  have htwo : home = [.char '/', .char '/'] →
      s₂.session.cwd = .char '/' :: destination s.session (.char '~' :: .char '/' :: x) := by
    rintro rfl
    rw [hbelow, hcwd]
    exact Path.normalize_root_slash_slash hrelative
  refine ⟨⟨fun h => ?_, fun hroot => ?_⟩, hone, htwo⟩
  · -- a path is not itself with a slash in front
    obtain ⟨-, hagain⟩ := (enters_iff hcd).1 h
    have hsame : s₂.session.cwd = destination s.session (.char '~' :: .char '/' :: x) := by
      rw [hagain]
      rfl
    constructor
    · intro hroot
      have hlonger := hone hroot
      rw [hsame] at hlonger
      exact List.ne_cons_self hlonger
    · intro hroot
      have hlonger := htwo hroot
      rw [hsame] at hlonger
      exact List.ne_cons_self hlonger
  · refine (enters_iff hcd).2 ?_
    rw [hbelow, Path.normalize_append_slash habs hroot hrelative]
    exact ⟨hdir, hstate⟩

/-- A session at the root whose home is the other directory, told with a slash behind it. -/
def outside : State :=
  { atHome with session := { atHome.session with env := [("HOME".runes, "/d/".runes)] } }

theorem home_composes_outside :
    plain.builtin? "cd".runes = some Builtin.cd ∧
      outside.session.env.get? "HOME".runes = some "/d/".runes ∧
      Path.isAbsolute "/d/".runes = true ∧ Path.isAbsolute ".././d".runes = false ∧
      Builtin.Literal ".././d".runes ∧
      ∃ s₁ s₂, plain.Enters "~".runes outside s₁ ∧ plain.Enters ".././d".runes s₁ s₂ ∧
        s₂.session.cwd = "/d".runes ∧ plain.Enters "~/.././d".runes outside s₂ := by
  let s₁ := (plain.runPipeline (.cd "~".runes) outside).state
  let s₂ := (plain.runPipeline (.cd ".././d".runes) s₁).state
  have hx : Builtin.Literal ".././d".runes := ⟨by decide, by decide⟩
  have h₁ : plain.Enters "~".runes outside s₁ := ⟨by decide +kernel, rfl⟩
  have h₂ : plain.Enters ".././d".runes s₁ s₂ := ⟨by decide +kernel, rfl⟩
  have hhome : outside.session.env.get? "HOME".runes = some "/d/".runes := rfl
  have hcomposes := home_composes rfl hhome rfl rfl hx h₁ h₂
  exact ⟨rfl, hhome, rfl, rfl, hx, s₁, s₂, h₁, h₂, by decide +kernel,
    hcomposes.1.2 ⟨by decide, by decide⟩⟩

/-- From a home directory that is the root `d` leads to `/d`, but `~/d` to `//d`. -/
theorem home_root_not_composes :
    ¬∀ (sh : Shell) (s s₁ s₂ : State) (home x : Text),
      sh.builtin? "cd".runes = some Builtin.cd →
        s.session.env.get? "HOME".runes = some home → Path.isAbsolute home = true →
          Path.isAbsolute x = false → Builtin.Literal x → sh.Enters [.char '~'] s s₁ →
            sh.Enters x s₁ s₂ →
              ∃ s₃, sh.Enters (.char '~' :: .char '/' :: x) s s₃ ∧ s₃.session.cwd = s₂.session.cwd ∧
                s₃.session.env.get? "PWD".runes = s₂.session.env.get? "PWD".runes := by
  intro h
  let s₁ := (plain.runPipeline (.cd "~".runes) atHome).state
  let s₂ := (plain.runPipeline (.cd "d".runes) s₁).state
  have hx : Builtin.Literal "d".runes := ⟨by decide, by decide⟩
  have h₁ : plain.Enters "~".runes atHome s₁ := ⟨by decide +kernel, rfl⟩
  have h₂ : plain.Enters "d".runes s₁ s₂ := ⟨by decide +kernel, rfl⟩
  obtain ⟨s₃, h₃, hcwd, -⟩ := h plain atHome s₁ s₂ [.char '/'] "d".runes rfl rfl rfl rfl hx h₁ h₂
  rw [← h₃.state] at hcwd
  exact absurd hcwd (by decide +kernel)

end Shell

end PipelineShell
