import PipelineShell.Proofs.Line.Scanning
import PipelineShell.Line.Pipeline

/-!
# Where the characters of a word come from

Each character of a word stands bare, behind a backslash or between quotes in the line. The quoted
flag is also set by an empty quoted section.
-/

namespace PipelineShell.Quoting

/-- How a character of a word is written in the line. -/
inductive Origin
  | bare
  | escaped
  | quoted
  deriving DecidableEq, Repr

/-- The characters that a piece stands for, each with how it is written. -/
def Piece.origins : Piece → List (Rune × Origin)
  | .bare c _ => [(c, .bare)]
  | .escape c => [(c, .escaped)]
  | .single body _ => body.map (·, .quoted)
  | .double units => (units.flatMap DoubleUnit.value).map (·, .quoted)

/-- The characters of the word that a chunk stands for, each with how it is written. -/
def Chunk.origins (c : Chunk) : List (Rune × Origin) := c.pieces.flatMap Piece.origins

/-- A section with nothing between its quotation marks. -/
def Piece.Hollow : Piece → Prop
  | .bare _ _ | .escape _ => False
  | .single body _ => body = []
  | .double units => units = []

/-- A character of the word stands behind a backslash or between quotation marks. -/
def Chunk.HoldsQuoted (c : Chunk) : Prop := ∃ o ∈ c.origins, o.2 ≠ .bare

/-- Beside the characters of the word there is a section without any. -/
def Chunk.HasHollow (c : Chunk) : Prop := ∃ p ∈ c.pieces, p.Hollow

/-! ### Pieces -/

theorem map_fst_origins (p : Piece) : p.origins.map Prod.fst = p.value := by
  cases p with
  | bare c h => rfl
  | escape c => rfl
  | single body h => simp [Piece.origins, Piece.value, Function.comp_def]
  | double units => simp [Piece.origins, Piece.value, Function.comp_def]

theorem value_ne_nil (u : DoubleUnit) : u.value ≠ [] := by
  cases u with
  | pair c =>
    rw [DoubleUnit.value]
    split <;> simp
  | plain c h => simp [DoubleUnit.value]

theorem exists_quoted_iff (t : Text) :
    (∃ o ∈ t.map (·, Origin.quoted), o.2 ≠ .bare) ↔ t ≠ [] := by
  cases t with
  | nil => simp
  | cons c t => simp

theorem marked_iff (p : Piece) : p.marked = true ↔ (∃ o ∈ p.origins, o.2 ≠ .bare) ∨ p.Hollow := by
  cases p with
  | bare c h => simp [Piece.marked, Piece.origins, Piece.Hollow]
  | escape c => simp [Piece.marked, Piece.origins]
  | single body h =>
    rw [Piece.origins, exists_quoted_iff, Piece.Hollow]
    exact iff_of_true rfl (Decidable.em (body = [])).symm
  | double units =>
    have hempty : units.flatMap DoubleUnit.value = [] ↔ units = [] := by
      cases units with
      | nil => simp
      | cons u units => simp [value_ne_nil]
    rw [Piece.origins, exists_quoted_iff, Piece.Hollow, ← hempty]
    exact iff_of_true rfl (Decidable.em (units.flatMap DoubleUnit.value = [])).symm

/-! ### Chunks and their words -/

theorem Chunk.map_fst_origins (c : Chunk) : c.origins.map Prod.fst = c.value := by
  rw [Chunk.origins, Chunk.value, List.map_flatMap]
  simp only [Quoting.map_fst_origins]

theorem Chunk.marked_iff (c : Chunk) : c.marked = true ↔ c.HoldsQuoted ∨ c.HasHollow := by
  simp only [Chunk.marked, List.any_eq_true, Quoting.marked_iff, Chunk.HoldsQuoted, Chunk.HasHollow,
    Chunk.origins, List.mem_flatMap]
  constructor
  · rintro ⟨p, hp, ⟨o, ho, hbare⟩ | hollow⟩
    · exact .inl ⟨o, ⟨p, hp, ho⟩, hbare⟩
    · exact .inr ⟨p, hp, hollow⟩
  · rintro (⟨o, ⟨p, hp, ho⟩, hbare⟩ | ⟨p, hp, hollow⟩)
    · exact ⟨p, hp, .inl ⟨o, ho, hbare⟩⟩
    · exact ⟨p, hp, .inr hollow⟩

theorem eq_of_word? {c : Chunk} {w : Word} (h : c.word? = some w) : w = ⟨c.value, c.marked⟩ := by
  unfold Chunk.word? at h
  split at h
  · cases h
  · exact (Option.some.inj h).symm

theorem operator?_of_quoted (w : Word) :
    w.operator? = if w.quoted then none else (Word.plain w.text).operator? := by
  rw [Word.operator?, Word.operator?]
  rfl

/-- Each word of an accepted line is that of a chunk of its derivation. It is quoted exactly if one
of its characters does not stand bare, or if the chunk has an empty quoted section. -/
theorem quoted_of_scan {t : Text} {words : List Word} (h : Word.scan t = .ok words) :
    ∃ l : Line, l.written = t ∧ (∀ m : Line, m.written = t → m = l) ∧
      words = l.row.chunks.filterMap Chunk.word? ∧
      ∀ c ∈ l.row.chunks, ∀ w, c.word? = some w →
        c.origins.map Prod.fst = w.text ∧
          (w.quoted = true ↔ c.HoldsQuoted ∨ c.HasHollow) ∧
          (¬c.HoldsQuoted →
            (¬c.HasHollow → w.operator? = (Word.plain w.text).operator?) ∧
              (c.HasHollow → w.operator? = none)) := by
  obtain ⟨l, rfl, hwords⟩ := line_of_scan h
  refine ⟨l, rfl, fun m hm => written_injective m l hm, hwords.symm, ?_⟩
  intro c hc w hw
  have hquoted : w.quoted = true ↔ c.HoldsQuoted ∨ c.HasHollow := by
    rw [eq_of_word? hw]
    exact c.marked_iff
  refine ⟨?_, hquoted, ?_⟩
  · rw [eq_of_word? hw]
    exact c.map_fst_origins
  · intro hbare
    constructor
    · intro hwhole
      have hplain : ¬w.quoted = true := fun hq => (hquoted.1 hq).elim hbare hwhole
      rw [operator?_of_quoted, if_neg hplain]
    · intro hollow
      rw [operator?_of_quoted, if_pos (hquoted.2 (.inr hollow))]

/-- A bar behind an empty section, a bare bar, and one behind a backslash. -/
def bars : Line :=
  ⟨0, .cons ⟨.single [] (by simp), [.bare '|' (by decide)]⟩ 0
    (.cons ⟨.bare '|' (by decide), []⟩ 0 (.last ⟨.escape '|', []⟩)), false⟩

theorem quoted_of_scan_bars :
    Word.scan "''| | \\|".runes =
        .ok [⟨[.char '|'], true⟩, ⟨[.char '|'], false⟩, ⟨[.char '|'], true⟩] ∧
      ∀ c ∈ bars.row.chunks, ∀ w, c.word? = some w →
        (w.quoted = true ↔ c.HoldsQuoted ∨ c.HasHollow) ∧
          (¬c.HoldsQuoted → ¬c.HasHollow → w.operator? = some .pipe) := by
  have hscan : Word.scan "''| | \\|".runes =
      .ok [⟨[.char '|'], true⟩, ⟨[.char '|'], false⟩, ⟨[.char '|'], true⟩] := by rfl
  refine ⟨hscan, ?_⟩
  obtain ⟨l, hl, hunique, -, hwords⟩ := quoted_of_scan hscan
  obtain rfl := hunique bars (by decide)
  intro c hc w hw
  obtain ⟨-, hquoted, hoperator⟩ := hwords c hc w hw
  refine ⟨hquoted, fun hbare hwhole => ?_⟩
  have htext : w.text = [.char '|'] := by
    have hall : ∀ c ∈ bars.row.chunks, c.value = [.char '|'] := by decide
    rw [eq_of_word? hw, hall c hc]
  rw [(hoperator hbare).1 hwhole, htext]
  rfl

/-- In `''|` the one character stands bare and spells an operator. Yet the word is quoted, and it is
no operator but an argument. -/
theorem hollow_not_operator :
    (¬∀ (t : Text) (words : List Word) (l : Line), Word.scan t = .ok words → l.written = t →
        ∀ c ∈ l.row.chunks, ∀ w ∈ words, c.word? = some w →
          (w.quoted = true ↔ c.HoldsQuoted)) ∧
      (¬∀ (t : Text) (words : List Word) (l : Line), Word.scan t = .ok words → l.written = t →
        ∀ c ∈ l.row.chunks, ∀ w ∈ words, c.word? = some w → ¬c.HoldsQuoted →
          ∀ op, (Word.plain w.text).operator? = some op → w.operator? = some op) ∧
      Pipeline.ofLine "a ''| b".runes =
        .ok ⟨[⟨[.char 'a'], [[.char '|'], [.char 'b']]⟩], none, none⟩ := by
  let c : Chunk := ⟨.single [] (by simp), [.bare '|' (by decide)]⟩
  let l : Line := ⟨0, .last c, false⟩
  have hscan : Word.scan "''|".runes = .ok [⟨[.char '|'], true⟩] := by rfl
  have hwritten : l.written = "''|".runes := by rfl
  have hword : c.word? = some ⟨[.char '|'], true⟩ := by rfl
  have hbare : ¬c.HoldsQuoted := by
    rintro ⟨o, ho, hne⟩
    have horigins : c.origins = [(.char '|', .bare)] := rfl
    rw [horigins, List.mem_singleton] at ho
    exact hne (by rw [ho])
  have hin : c ∈ l.row.chunks := List.mem_singleton_self c
  refine ⟨fun h => ?_, fun h => ?_, by rfl⟩
  · exact hbare ((h _ _ l hscan hwritten c hin _ (List.mem_singleton_self _) hword).1 rfl)
  · have hpipe := h _ _ l hscan hwritten c hin _ (List.mem_singleton_self _) hword hbare .pipe rfl
    cases hpipe

end PipelineShell.Quoting
