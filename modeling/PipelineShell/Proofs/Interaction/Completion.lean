import PipelineShell.Proofs.Completion.LineEditor
import PipelineShell.Proofs.Execution.Naming
import PipelineShell.Proofs.Line.Name

/-!
# Accepting a completion

A full completion is the bare name and a space. `execute_line` runs that command exactly if no
character of the name is special to `tokenize` and the name is no operator.
-/

namespace PipelineShell.Shell

variable {sh : Shell} {s s' : State} {c : Completer} {w : Text}

theorem knows_of_completer (h : sh.completer s = .ok c) :
    ∃ found, SearchPath.programs s.files sh.base s.session.searchPath = .ok found ∧
      c.Knows (found ++ sh.names) := by
  unfold completer at h
  cases hscan : SearchPath.programs s.files sh.base s.session.searchPath with
  | error failure =>
    rw [hscan] at h
    cases h
  | ok found =>
    rw [hscan] at h
    cases h
    exact ⟨found, rfl, Completer.knows_ofList _⟩

/-- A name that is known to the completer stands for a builtin or a program, as long as the files
and the search path are the same. -/
theorem isSome_stage?_of_known {found : List Text}
    (hfound : SearchPath.programs s.files sh.base s.session.searchPath = .ok found)
    (hw : w ∈ found ++ sh.names) (hname : w ≠ []) (hslash : .char '/' ∉ w)
    (hfiles : s'.files = s.files)
    (hpath : s'.session.searchPath = s.session.searchPath) (args : List Text) :
    (sh.stage? s' ⟨w, args⟩).isSome := by
  rcases sh.stage?_cases s' w args with ⟨b, hstage, -⟩ | ⟨path, hstage, -, -⟩ |
    ⟨-, hnot, hprogram⟩
  · rw [hstage]
    rfl
  · rw [hstage]
    rfl
  · have hscanned : w ∈ found := (List.mem_append.1 hw).resolve_right hnot
    have hlocated := SearchPath.isSome_locate_of_programs hfound hscanned
      (some s'.session.cwd) hname hslash
    rw [program?, hfiles, hpath] at hprogram
    rw [hprogram] at hlocated
    cases hlocated

/-- A full completion is the name and a space. The line is the pipeline of this one command exactly
if the name is bare; then `execute_line` runs it, and it is still found if the files and `PATH` are
the same. -/
theorem runLine_completion (sh : Shell) (s : State) (prompt : Text) (questions : List Question)
    (q : Question) (c : Completer) (w : Text) (hc : sh.completer s = .ok c)
    (hfull : ((c.interview prompt questions).2.complete q.text).1 = .full w) :
    ((⟨prompt, q.buffer⟩ : LineEditor).ask (c.interview prompt questions).2 q.text 0).1 =
        { value := some (w ++ [.char ' ']) } ∧
      (Pipeline.ofLine (w ++ [.char ' ']) = .ok (.alone w) ↔ w.Bare) ∧
      (w.Bare → ∀ s', sh.runLine (w ++ [.char ' ']) s' =
        ((sh.runPipeline (.alone w) s').ended, (sh.runPipeline (.alone w) s').state)) ∧
      (w.Bare → .char '/' ∉ w → ∀ s', s'.files = s.files →
        s'.session.searchPath = s.session.searchPath →
          ∃ stage, sh.stages s' [⟨w, []⟩] = .ok [stage]) := by
  obtain ⟨found, hfound, hknows⟩ := knows_of_completer hc
  have hcandidates := (hknows.interview prompt questions).candidates_of_full hfull
  have hmem : w ∈ Completer.candidates (found ++ sh.names) q.text :=
    hcandidates ▸ List.mem_singleton_self w
  have hknown : w ∈ found ++ sh.names := (Completer.mem_candidates.1 hmem).1
  refine ⟨?_, Pipeline.ofLine_name_iff w, ?_, ?_⟩
  · rw [Completer.ask_zero, hfull]
    rfl
  · intro hbare s'
    exact runLine_of_pipeline sh s' ((Pipeline.ofLine_name_iff w).2 hbare)
  · intro hbare hslash s' hfiles hpath
    have hfoundStage := isSome_stage?_of_known hfound hknown hbare.nonempty hslash hfiles hpath []
    obtain ⟨stage, hstage⟩ := Option.isSome_iff_exists.1 hfoundStage
    exact ⟨stage, (stages_singleton_eq_ok_iff _ _).2 hstage⟩

/-- Behind a bell for `e`, `ec` is completed to `echo`. -/
theorem runLine_completion_echo :
    ∃ c, plain.completer standing = .ok c ∧
      ((⟨prompt, "ec".runes⟩ : LineEditor).ask
        (c.interview prompt [⟨[.char 'e'], 0, [.char 'e']⟩]).2 "ec".runes 0).1 =
          { value := some "echo ".runes } ∧
      Pipeline.ofLine "echo ".runes = .ok (.alone "echo".runes) ∧
      (∀ s', plain.runLine "echo ".runes s' =
        ((plain.runPipeline (.alone "echo".runes) s').ended,
          (plain.runPipeline (.alone "echo".runes) s').state)) ∧
      ∃ stage, plain.stages standing [⟨"echo".runes, []⟩] = .ok [stage] := by
  have hbare : Text.Bare "echo".runes :=
    ⟨by decide, by decide, by decide, fun op => by cases op <;> decide⟩
  have hcompleter : plain.completer standing = .ok (Completer.ofList plain.names) := by rfl
  have hfull : (((Completer.ofList plain.names).interview prompt
      [⟨[.char 'e'], 0, [.char 'e']⟩]).2.complete "ec".runes).1 = .full "echo".runes := by
    decide +kernel
  obtain ⟨hoffered, hline, hruns, hfound⟩ :=
    runLine_completion plain standing prompt [⟨[.char 'e'], 0, [.char 'e']⟩]
      ⟨"ec".runes, 0, "ec".runes⟩ _ "echo".runes hcompleter hfull
  exact ⟨_, hcompleter, hoffered, hline.2 hbare, hruns hbare,
    hfound hbare (by decide) standing rfl rfl⟩

/-- A search path with one program, whose name has a space in it. -/
def spaced : State where
  session := { cwd := [.char '/'], env := [("PATH".runes, "/d".runes)] }
  files :=
    { entries := [(.named ["d".runes], .directory Mode.directory),
        (.named ["d".runes, "my tool".runes], .file {} Mode.program)] }

/-- The name of this program is offered for `my`, and then read as the name `my` with an
argument. -/
theorem completion_not_alone :
    ¬∀ (sh : Shell) (s : State) (e : LineEditor) (c : Completer) (text w : Text),
      sh.completer s = .ok c → (c.complete text).1 = .full w →
        (e.ask c text 0).1.value = some (w ++ [.char ' ']) →
          Pipeline.ofLine (w ++ [.char ' ']) = .ok (.alone w) := by
  intro h
  let c := Completer.ofList ("my tool".runes :: plain.names)
  have hcompleter : plain.completer spaced = .ok c := by rfl
  have hfull : (c.complete "my".runes).1 = .full "my tool".runes := by decide +kernel
  have hoffered : ((⟨prompt, []⟩ : LineEditor).ask c "my".runes 0).1.value =
      some ("my tool".runes ++ [.char ' ']) := by
    rw [Completer.ask_zero, hfull]
    rfl
  have halone :=
    h plain spaced ⟨prompt, []⟩ c "my".runes "my tool".runes hcompleter hfull hoffered
  have hread : Pipeline.ofLine ("my tool".runes ++ [.char ' ']) =
      .ok ⟨[⟨"my".runes, ["tool".runes]⟩], none, none⟩ := by rfl
  rw [hread] at halone
  cases halone

end PipelineShell.Shell
