import PipelineShell.Proofs.Execution.History
import PipelineShell.Proofs.Text.Lines
import PipelineShell.Proofs.Text.Utf8

/-!
# Loading a saved history

`history -r` reads back entries that were saved line by line, or changes nothing.
-/

namespace PipelineShell

/-- The operand of a builtin names a file that can be read, with these bytes in it. -/
structure State.Holds (s : State) (base operand : Text) (bytes : Bytes) : Prop where
  fit : Text.isFit (s.session.resolve operand) = true
  read : s.files.read base (s.session.resolve operand) = .ok bytes

theorem State.entriesIn?_eq_some_iff {s : State} {base operand : Text} {entries : List Text} :
    s.entriesIn? base operand = some entries ↔
      ∃ t bytes, Utf8.encode t = .ok bytes ∧ s.Holds base operand bytes ∧
        Text.lines (Text.unifyLineEnds t) = entries := by
  simp only [entriesIn?]
  constructor
  · intro h
    split at h
    · cases h
    · next hfit =>
      split at h
      · cases h
      · next bytes hread =>
        split at h
        · cases h
        · next chars hdecode =>
          refine ⟨Text.ofChars chars, bytes, ?_, ⟨Text.unfit?_eq_none.1 hfit, hread⟩,
            Option.some.inj h⟩
          rw [Utf8.encode_of_isWhole (Text.isWhole_ofChars chars), Text.chars_ofChars,
            Utf8.decode_eq_ok_iff.1 hdecode]
  · rintro ⟨t, bytes, hencode, ⟨hfit, hread⟩, rfl⟩
    obtain ⟨hwhole, hbytes⟩ := Utf8.encode_eq_ok_iff.1 hencode
    simp only [Text.unfit?_eq_none.2 hfit, hread, Utf8.decode_eq_ok_iff.2 hbytes,
      Text.ofChars_chars hwhole]

namespace Builtin
variable {base : Text} {builtins : List Text} {w : Wiring} {s : State}

/-- Something can be loaded for these operands: the first of them names a file with this text. -/
def Loadable (base : Text) (s : State) (operands : List Text) (t : Text) : Prop :=
  ∃ operand ∈ operands.head?, ∃ bytes, Utf8.encode t = .ok bytes ∧ s.Holds base operand bytes

theorem history_run_of_loadable {operands : List Text} {t : Text}
    (h : Loadable base s operands t) :
    (history ("-r".runes :: operands)).run base builtins w s =
      (.returned 0, w,
        { s with session :=
          { s.session with
            history := s.session.history ++ Text.lines (Text.unifyLineEnds t) } }) := by
  obtain ⟨operand, hfirst, bytes, hencode, hholds⟩ := h
  obtain ⟨rest, rfl⟩ := List.head?_eq_some_iff.1 hfirst
  have hentries := State.entriesIn?_eq_some_iff.2 ⟨t, bytes, hencode, hholds, rfl⟩
  rw [history_load]
  rcases loadHistory_run base builtins operand w s with ⟨entries, hfile, hrun⟩ | ⟨hnone, -⟩
  · rw [hfile] at hentries
    rw [hrun, Option.some.inj hentries]
    rfl
  · rw [hnone] at hentries
    cases hentries

theorem history_run_of_not_loadable {operands : List Text}
    (h : ¬∃ t, Loadable base s operands t) (builtins : List Text) (w : Wiring) :
    ∃ failure, (history ("-r".runes :: operands)).run base builtins w s =
      (.raised failure, w, s) := by
  cases operands with
  | nil => exact ⟨.missingOperand, rfl⟩
  | cons operand rest =>
    rw [history_load]
    rcases loadHistory_run base builtins operand w s with ⟨entries, hfile, -⟩ | ⟨-, hrun⟩
    · obtain ⟨t, bytes, hencode, hholds, -⟩ := State.entriesIn?_eq_some_iff.1 hfile
      exact absurd ⟨t, operand, rfl, bytes, hencode, hholds⟩ h
    · exact hrun

/-- `history -r` on saved entries appends them in order and changes nothing else. It raises exactly
if the operand is missing, or the file cannot be read or decoded, and then nothing has changed. -/
theorem history_loads (base : Text) (builtins : List Text) (w : Wiring) (s : State)
    (operands : List Text) :
    (∀ (e : Text.LineEnd) (entries : List Text) (t : Text), (∀ entry ∈ entries, entry.Unbroken) →
      Text.Saves e entries t → Loadable base s operands t →
        (history ("-r".runes :: operands)).run base builtins w s =
          (.returned 0, w,
            { s with session :=
              { s.session with history := s.session.history ++ entries } })) ∧
      (∀ failure w' s', (history ("-r".runes :: operands)).run base builtins w s =
        (.raised failure, w', s') → w' = w ∧ s' = s) ∧
      ((∃ failure, ((history ("-r".runes :: operands)).run base builtins w s).1 =
        .raised failure) ↔ ¬∃ t, Loadable base s operands t) := by
  refine ⟨fun e entries t hentries hsaves hload => ?_, fun failure w' s' hrun => ?_, ?_⟩
  · rw [history_run_of_loadable hload, Text.lines_of_saves hsaves hentries]
  · by_cases hload : ∃ t, Loadable base s operands t
    · obtain ⟨t, hload⟩ := hload
      rw [history_run_of_loadable hload] at hrun
      cases hrun
    · obtain ⟨failure', hkept⟩ := history_run_of_not_loadable hload builtins w
      rw [hkept] at hrun
      cases hrun
      exact ⟨rfl, rfl⟩
  · constructor
    · rintro ⟨failure, hraised⟩ ⟨t, hload⟩
      rw [history_run_of_loadable hload] at hraised
      cases hraised
    · intro hload
      obtain ⟨failure, hkept⟩ := history_run_of_not_loadable hload builtins w
      exact ⟨failure, by rw [hkept]⟩

/-- A session with one entry. A saved history begins with a byte order mark, holds an empty entry
and has no line end behind its last one; another file is a text up to its last byte. -/
def beforeLoading : State where
  session := { cwd := [.char '/'], history := ["x".runes] }
  files :=
    { entries := [(.named ["h".runes],
          .file (.ofBytes [0xef, 0xbb, 0xbf, 0x61, 0x0d, 0x0a, 0x0d, 0x0a, 0x62]) Mode.plain),
        (.named ["g".runes], .file (.ofBytes [0x61, 0x0a, 0xff]) Mode.plain)] }

theorem history_loads_marked :
    let w : Wiring := ⟨.session, .session .stdout, .session .stderr⟩
    let entries := ["\ufeffa".runes, [], "b".runes]
    let text := "\ufeffa\r\n\r\nb".runes
    let refused := (history ["-r".runes, "g".runes]).run [.char '/'] [] w beforeLoading
    (∀ entry ∈ entries, Text.Unbroken entry) ∧ Text.Saves .both entries text ∧
      Loadable [.char '/'] beforeLoading ["h".runes] text ∧
      (history ["-r".runes, "h".runes]).run [.char '/'] [] w beforeLoading =
        (.returned 0, w,
          { beforeLoading with session :=
            { cwd := [.char '/'], history := "x".runes :: entries } }) ∧
      refused.1 = .raised (.notUtf8 ⟨2, [0xff], .start⟩) ∧ refused.2.1 = w ∧
      refused.2.2 = beforeLoading ∧ ¬∃ t, Loadable [.char '/'] beforeLoading ["g".runes] t := by
  intro w entries text refused
  have hentries : ∀ entry ∈ entries, Text.Unbroken entry := by decide
  have hsaves : Text.Saves .both entries text :=
    .unended ["\ufeffa".runes, []] (by decide : "b".runes ≠ [])
  have hload : Loadable [.char '/'] beforeLoading ["h".runes] text :=
    ⟨"h".runes, rfl, _, rfl, by decide, by rfl⟩
  have hraised : refused.1 = .raised (.notUtf8 ⟨2, [0xff], .start⟩) := by decide +kernel
  have hloads := history_loads [.char '/'] [] w beforeLoading ["h".runes]
  have hkeeps := history_loads [.char '/'] [] w beforeLoading ["g".runes]
  obtain ⟨hw, hs⟩ := hkeeps.2.1 _ refused.2.1 refused.2.2 (Prod.ext hraised rfl)
  exact ⟨hentries, hsaves, hload, hloads.1 _ entries text hentries hsaves hload, hraised, hw, hs,
    hkeeps.2.2.1 ⟨_, hraised⟩⟩

end Builtin
end PipelineShell
