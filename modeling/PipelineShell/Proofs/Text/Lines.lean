import PipelineShell.Text.Lines
import PipelineShell.Text.Order

/-!
# Entries saved line by line

Entries without a line boundary, each with a line end behind it, are read back as they were.
-/

namespace PipelineShell.Text

/-- The characters at which a text is cut into lines. -/
def boundaries : List Rune :=
  ['\n', '\r', '\x0b', '\x0c', '\x1c', '\x1d', '\x1e', '\u0085', '\u2028', '\u2029'].map .char

/-- The text holds no character at which it would be cut. -/
def Unbroken (t : Text) : Prop := ∀ c ∈ t, c ∉ boundaries

instance (t : Text) : Decidable t.Unbroken := List.decidableBAll (· ∉ boundaries) t

/-- The ways to end a line in a file. -/
inductive LineEnd
  | lineFeed
  | carriageReturn
  | both
  deriving DecidableEq, Repr

/-- The characters of a line end. -/
def LineEnd.chars : LineEnd → Text
  | .lineFeed => [.char '\n']
  | .carriageReturn => [.char '\r']
  | .both => [.char '\r', .char '\n']

/-- The entries in order, with a line end behind each. -/
def saved (e : LineEnd) (entries : List Text) : Text := entries.flatMap (· ++ e.chars)

/-- The entries are saved as this text. The line end behind the last one may be missing, unless the
entry is empty. -/
inductive Saves (e : LineEnd) : List Text → Text → Prop
  | ended (entries : List Text) : Saves e entries (saved e entries)
  | unended (entries : List Text) {last : Text} (hne : last ≠ []) :
      Saves e (entries ++ [last]) (saved e entries ++ last)

theorem saved_cons (e : LineEnd) (entry : Text) (entries : List Text) :
    saved e (entry :: entries) = entry ++ (e.chars ++ saved e entries) := by
  rw [saved, List.flatMap_cons, List.append_assoc]
  rfl

theorem mem_boundaries_iff {c : Rune} : c ∈ boundaries ↔ c = '\r' ∨ isBoundary c = true := by
  have heq (d : Rune) : (c = d) = (c.toNat = d.toNat) :=
    propext ⟨fun h => by rw [h], Rune.toNat_injective⟩
  have hchar (d : Char) : (Rune.char d).toNat = d.toNat := rfl
  simp only [boundaries, List.map_cons, List.map_nil, List.mem_cons, List.not_mem_nil, or_false,
    heq, hchar, isBoundary, Bool.or_eq_true, Bool.and_eq_true, decide_eq_true_eq, Char.reduceToNat]
  omega

theorem Unbroken.of_cons {c : Rune} {t : Text} (h : Unbroken (c :: t)) :
    (c ≠ '\r' ∧ isBoundary c = false) ∧ t.Unbroken := by
  obtain ⟨hc, ht⟩ := List.forall_mem_cons.1 h
  rw [mem_boundaries_iff, not_or, Bool.not_eq_true] at hc
  exact ⟨hc, ht⟩

theorem head?_saved_ne {entries : List Text} {tail : Text} (hentries : ∀ t ∈ entries, t.Unbroken)
    (htail : tail.Unbroken) :
    (saved .carriageReturn entries ++ tail).head? ≠ some (.char '\n') := by
  have hfirst {t : Text} (ht : t.Unbroken) : t.head? ≠ some (.char '\n') := fun h =>
    ht '\n' (List.mem_of_head? h) (by decide)
  cases entries with
  | nil => exact hfirst htail
  | cons entry entries =>
    rw [saved_cons]
    cases entry with
    | nil => simp [LineEnd.chars]
    | cons c entry => exact fun h => hfirst (hentries (c :: entry) (List.mem_cons_self ..)) h

/-! ### Line ends made the same -/

theorem unifyLineEnds_go_unbroken {t : Text} (h : t.Unbroken) (done rest : Text) :
    unifyLineEnds.go done (t ++ rest) = unifyLineEnds.go (t.reverse ++ done) rest := by
  induction t generalizing done with
  | nil => rfl
  | cons c t ih =>
    obtain ⟨⟨hc, -⟩, ht⟩ := h.of_cons
    rw [List.cons_append, unifyLineEnds.go, ih ht, List.reverse_cons, List.append_assoc]
    · rfl
    · exact fun _ hr => absurd hr hc
    · exact hc

/-- A line end is read as a line feed. A carriage return and a line feed that belong to two line
ends would be read as one. -/
theorem unifyLineEnds_go_end {e : LineEnd} {rest : Text}
    (h : e = .carriageReturn → rest.head? ≠ some (.char '\n')) (done : Text) :
    unifyLineEnds.go done (e.chars ++ rest) = unifyLineEnds.go (.char '\n' :: done) rest := by
  cases e with
  | lineFeed => rfl
  | both => rfl
  | carriageReturn =>
    rw [LineEnd.chars, List.singleton_append, unifyLineEnds.go]
    rintro more rfl
    exact h rfl rfl

theorem unifyLineEnds_go_saved (e : LineEnd) {entries : List Text} {tail : Text}
    (hentries : ∀ t ∈ entries, t.Unbroken) (htail : tail.Unbroken) (done : Text) :
    unifyLineEnds.go done (saved e entries ++ tail) =
      done.reverse ++ (saved .lineFeed entries ++ tail) := by
  induction entries generalizing done with
  | nil =>
    have h := unifyLineEnds_go_unbroken htail done []
    rw [List.append_nil] at h
    simp [saved, h, unifyLineEnds.go]
  | cons entry entries ih =>
    obtain ⟨hentry, hrest⟩ := List.forall_mem_cons.1 hentries
    have hend : e = .carriageReturn → (saved e entries ++ tail).head? ≠ some (.char '\n') := by
      rintro rfl
      exact head?_saved_ne hrest htail
    rw [saved_cons, List.append_assoc, List.append_assoc, unifyLineEnds_go_unbroken hentry,
      unifyLineEnds_go_end hend, ih hrest, saved_cons]
    simp [LineEnd.chars]

/-! ### Cutting -/

theorem lines_go_unbroken {t : Text} (h : t.Unbroken) (done : List Text) (line rest : Text) :
    lines.go done line (t ++ rest) = lines.go done (t.reverse ++ line) rest := by
  induction t generalizing line with
  | nil => rfl
  | cons c t ih =>
    obtain ⟨⟨-, hc⟩, ht⟩ := h.of_cons
    rw [List.cons_append, lines.go, hc, List.reverse_cons, List.append_assoc]
    exact ih ht (c :: line)

theorem lines_go_saved {entries : List Text} {tail : Text}
    (hentries : ∀ t ∈ entries, t.Unbroken) (htail : tail.Unbroken) (done : List Text) :
    lines.go done [] (saved .lineFeed entries ++ tail) =
      done.reverse ++ entries ++ if tail.isEmpty then [] else [tail] := by
  induction entries generalizing done with
  | nil =>
    have h := lines_go_unbroken htail done [] []
    rw [List.append_nil, List.append_nil] at h
    simp only [saved, List.flatMap_nil, List.nil_append, List.append_nil, h, lines.go,
      List.isEmpty_reverse, List.reverse_reverse]
    split <;> simp
  | cons entry entries ih =>
    obtain ⟨hentry, hrest⟩ := List.forall_mem_cons.1 hentries
    have hend (line : Text) : lines.go done line (LineEnd.lineFeed.chars ++
        (saved .lineFeed entries ++ tail)) =
        lines.go (line.reverse :: done) [] (saved .lineFeed entries ++ tail) := rfl
    rw [saved_cons, List.append_assoc, List.append_assoc, lines_go_unbroken hentry, hend, ih hrest]
    simp

theorem lines_of_saves {e : LineEnd} {entries : List Text} {t : Text} (h : Saves e entries t)
    (hentries : ∀ entry ∈ entries, entry.Unbroken) : lines (unifyLineEnds t) = entries := by
  -- both forms are the entries with a line end and a tail behind them, which may be empty
  have hback {ended : List Text} {tail : Text} (hended : ∀ entry ∈ ended, entry.Unbroken)
      (htail : tail.Unbroken) : lines (unifyLineEnds (saved e ended ++ tail)) =
        ended ++ if tail.isEmpty then [] else [tail] := by
    rw [unifyLineEnds, unifyLineEnds_go_saved e hended htail]
    exact lines_go_saved hended htail []
  cases h with
  | ended =>
    have h := hback hentries (nofun : Unbroken [])
    simpa using h
  | unended entries hne =>
    obtain ⟨hended, hlast⟩ := List.forall_mem_append.1 hentries
    rw [hback hended (hlast _ (List.mem_singleton_self _)), if_neg (by simpa using hne)]

end PipelineShell.Text
