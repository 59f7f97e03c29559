import PipelineShell.Line.Word

/-!
# The quoting grammar of a line

Chunks between spaces, made of bare characters, escapes and quoted sections. A text has at most one
derivation, and none exactly if a quote is left open.
-/

namespace PipelineShell.Quoting

/-! ### Derivations -/

/-- One unit between double quotes: a character behind a backslash, or one that is neither the mark
nor a backslash. -/
inductive DoubleUnit
  | pair (c : Rune)
  | plain (c : Rune) (h : c ∉ [.char '"', .char '\\'])

inductive Piece
  | bare (c : Rune) (h : c ∉ [.char ' ', .char '\'', .char '"', .char '\\'])
  | escape (c : Rune)
  | single (body : Text) (h : .char '\'' ∉ body)
  | double (units : List DoubleUnit)

/-- At least one piece. -/
structure Chunk where
  first : Piece
  rest : List Piece

/-- Chunks with the spaces behind each; only behind the last there may be none. -/
inductive Row
  | nil
  | last (chunk : Chunk)
  /-- The chunk has one space behind it and `more` further ones. -/
  | cons (chunk : Chunk) (more : Nat) (rest : Row)

/-- The derivation of a line: the spaces in front, the chunks, and whether a lone backslash stands
at the end. -/
structure Line where
  lead : Nat
  row : Row
  dangling : Bool

/-! ### What is written, and what it stands for -/

def DoubleUnit.written : DoubleUnit → Text
  | .pair c => ['\\', c]
  | .plain c _ => [c]

/-- A backslash is dropped before the four characters that it escapes and kept before all others. -/
def DoubleUnit.value : DoubleUnit → Text
  | .pair c => if c ∈ [.char '"', .char '\\', .char '$', .char '`'] then [c] else ['\\', c]
  | .plain c _ => [c]

def Piece.written : Piece → Text
  | .bare c _ => [c]
  | .escape c => ['\\', c]
  | .single body _ => .char '\'' :: (body ++ [.char '\''])
  | .double units => .char '"' :: (units.flatMap DoubleUnit.written ++ [.char '"'])

def Piece.value : Piece → Text
  | .bare c _ | .escape c => [c]
  | .single body _ => body
  | .double units => units.flatMap DoubleUnit.value

def Piece.marked : Piece → Bool
  | .bare _ _ => false
  | .escape _ | .single _ _ | .double _ => true

def Chunk.pieces (c : Chunk) : List Piece := c.first :: c.rest
def Chunk.written (c : Chunk) : Text := c.pieces.flatMap Piece.written
def Chunk.value (c : Chunk) : Text := c.pieces.flatMap Piece.value
def Chunk.marked (c : Chunk) : Bool := c.pieces.any Piece.marked

/-- The word that a chunk stands for; one without a character stands for none. -/
def Chunk.word? (c : Chunk) : Option Word := if c.value = [] then none else some ⟨c.value, c.marked⟩

def Row.chunks : Row → List Chunk
  | .nil => []
  | .last c => [c]
  | .cons c _ r => c :: r.chunks

def spaces (n : Nat) : Text := List.replicate n ' '

def Row.written : Row → Text
  | .nil => []
  | .last c => c.written
  | .cons c n r => c.written ++ (spaces (n + 1) ++ r.written)

/-- The backslash that may be left over at an end. -/
def leftover (dangling : Bool) : Text := if dangling then [.char '\\'] else []

def Line.written (l : Line) : Text := spaces l.lead ++ (l.row.written ++ leftover l.dangling)

def Line.words (l : Line) : List Word := l.row.chunks.filterMap Chunk.word?

/-! ### Derivations from the front -/

/-- The line with nothing in it but perhaps the lone backslash. -/
def Line.ending (dangling : Bool) : Line := ⟨0, .nil, dangling⟩

def Line.space (l : Line) : Line := { l with lead := l.lead + 1 }

/-- A line with one more piece in front, which joins the first chunk unless a space stands before
it. -/
def Line.piece (p : Piece) : Line → Line
  | ⟨n + 1, r, d⟩ => ⟨0, .cons ⟨p, []⟩ n r, d⟩
  | ⟨0, .nil, d⟩ => ⟨0, .last ⟨p, []⟩, d⟩
  | ⟨0, .last c, d⟩ => ⟨0, .last ⟨p, c.pieces⟩, d⟩
  | ⟨0, .cons c n r, d⟩ => ⟨0, .cons ⟨p, c.pieces⟩ n r, d⟩

theorem written_ending (d : Bool) : (Line.ending d).written = leftover d := rfl

theorem written_space (l : Line) : l.space.written = .char ' ' :: l.written := rfl

theorem written_piece (p : Piece) (l : Line) : (l.piece p).written = p.written ++ l.written := by
  obtain ⟨lead, row, d⟩ := l
  cases lead with
  | succ n => simp [Line.piece, Line.written, Row.written, Chunk.written, Chunk.pieces, spaces]
  | zero =>
    cases row <;>
      simp [Line.piece, Line.written, Row.written, Chunk.written, Chunk.pieces, spaces]

theorem dangling_piece (p : Piece) (l : Line) : (l.piece p).dangling = l.dangling := by
  obtain ⟨lead, row, d⟩ := l
  cases lead with
  | succ n => rfl
  | zero => cases row <;> rfl

theorem line_cases (l : Line) :
    (∃ d, l = Line.ending d) ∨ (∃ m : Line, l = m.space) ∨
      ∃ (p : Piece) (m : Line), l = m.piece p := by
  obtain ⟨lead, row, d⟩ := l
  cases lead with
  | succ n => exact .inr (.inl ⟨⟨n, row, d⟩, rfl⟩)
  | zero =>
    cases row with
    | nil => exact .inl ⟨d, rfl⟩
    | last c =>
      obtain ⟨p, rest⟩ := c
      cases rest with
      | nil => exact .inr (.inr ⟨p, ⟨0, .nil, d⟩, rfl⟩)
      | cons q qs => exact .inr (.inr ⟨p, ⟨0, .last ⟨q, qs⟩, d⟩, rfl⟩)
    | cons c n r =>
      obtain ⟨p, rest⟩ := c
      cases rest with
      | nil => exact .inr (.inr ⟨p, ⟨n + 1, r, d⟩, rfl⟩)
      | cons q qs => exact .inr (.inr ⟨p, ⟨0, .cons ⟨q, qs⟩ n r, d⟩, rfl⟩)

/-! ### One derivation at most -/

theorem plain_ne {c : Rune} (h : c ∉ [.char '"', .char '\\']) : c ≠ '"' ∧ c ≠ '\\' := by
  simpa using h

theorem bare_ne {c : Rune} (h : c ∉ [.char ' ', .char '\'', .char '"', .char '\\']) :
    c ≠ ' ' ∧ c ≠ '\'' ∧ c ≠ '"' ∧ c ≠ '\\' := by simpa using h

theorem unit_prefix_free (u v : DoubleUnit) (a b : Text) (h : u.written ++ a = v.written ++ b) :
    u = v ∧ a = b := by
  cases u with
  | pair c =>
    cases v with
    | pair e => simpa [DoubleUnit.written] using h
    | plain e he =>
      have hne := plain_ne he
      simp only [DoubleUnit.written, List.cons_append, List.cons.injEq] at h
      exact absurd h.1.symm hne.2
  | plain c hc =>
    have hne := plain_ne hc
    cases v with
    | pair e =>
      simp only [DoubleUnit.written, List.cons_append, List.cons.injEq] at h
      exact absurd h.1 hne.2
    | plain e he => simpa [DoubleUnit.written] using h

theorem unit_ne_mark (u : DoubleUnit) (a b : Text) : u.written ++ a ≠ .char '"' :: b := by
  cases u with
  | pair c => simp [DoubleUnit.written]
  | plain c hc =>
    have hne := plain_ne hc
    simp [DoubleUnit.written, hne.1]

theorem units_prefix_free (us vs : List DoubleUnit) (a b : Text)
    (h : us.flatMap DoubleUnit.written ++ .char '"' :: a =
      vs.flatMap DoubleUnit.written ++ .char '"' :: b) :
    us = vs ∧ a = b := by
  induction us generalizing vs with
  | nil =>
    cases vs with
    | nil => simpa using h
    | cons v vs =>
      simp only [List.flatMap_nil, List.flatMap_cons, List.nil_append, List.append_assoc] at h
      exact absurd h.symm (unit_ne_mark v _ a)
  | cons u us ih =>
    cases vs with
    | nil =>
      simp only [List.flatMap_nil, List.flatMap_cons, List.nil_append, List.append_assoc] at h
      exact absurd h (unit_ne_mark u _ b)
    | cons v vs =>
      simp only [List.flatMap_cons, List.append_assoc] at h
      obtain ⟨huv, hrest⟩ := unit_prefix_free u v _ _ h
      obtain ⟨hs, hab⟩ := ih vs hrest
      exact ⟨by rw [huv, hs], hab⟩

theorem body_prefix_free {body other a b : Text} (hb : .char '\'' ∉ body) (ho : .char '\'' ∉ other)
    (h : body ++ .char '\'' :: a = other ++ .char '\'' :: b) : body = other ∧ a = b := by
  induction body generalizing other with
  | nil =>
    cases other with
    | nil => simpa using h
    | cons e other =>
      simp only [List.nil_append, List.cons_append, List.cons.injEq] at h
      exact absurd h.1 (List.ne_of_not_mem_cons ho)
  | cons c body ih =>
    cases other with
    | nil =>
      simp only [List.nil_append, List.cons_append, List.cons.injEq] at h
      exact absurd h.1.symm (List.ne_of_not_mem_cons hb)
    | cons e other =>
      simp only [List.cons_append, List.cons.injEq] at h
      obtain ⟨hs, hab⟩ := ih (List.not_mem_of_not_mem_cons hb) (List.not_mem_of_not_mem_cons ho) h.2
      exact ⟨by rw [h.1, hs], hab⟩

theorem piece_prefix_free (p q : Piece) (a b : Text) (h : p.written ++ a = q.written ++ b) :
    p = q ∧ a = b := by
  cases p with
  | bare c hc =>
    have hne := bare_ne hc
    cases q with
    | bare e he => simpa [Piece.written] using h
    | _ => simp [Piece.written, hne] at h
  | escape c =>
    cases q with
    | bare e he =>
      have hne := bare_ne he
      simp [Piece.written, hne.2.2.2.symm] at h
    | escape e => simpa [Piece.written] using h
    | _ => simp [Piece.written] at h
  | single body hb =>
    cases q with
    | bare e he =>
      have hne := bare_ne he
      simp [Piece.written, hne.2.1.symm] at h
    | single other ho =>
      simp only [Piece.written, List.cons_append, List.append_assoc, List.nil_append,
        List.cons.injEq, true_and] at h
      obtain ⟨hs, hab⟩ := body_prefix_free hb ho h
      exact ⟨by simp only [hs], hab⟩
    | _ => simp [Piece.written] at h
  | double us =>
    cases q with
    | bare e he =>
      have hne := bare_ne he
      simp [Piece.written, hne.2.2.1.symm] at h
    | double vs =>
      simp only [Piece.written, List.cons_append, List.append_assoc, List.nil_append,
        List.cons.injEq, true_and] at h
      obtain ⟨hs, hab⟩ := units_prefix_free us vs a b h
      exact ⟨by rw [hs], hab⟩
    | _ => simp [Piece.written] at h

theorem piece_ne_space (p : Piece) (a b : Text) : p.written ++ a ≠ .char ' ' :: b := by
  cases p with
  | bare c hc =>
    have hne := bare_ne hc
    simp [Piece.written, hne.1]
  | _ => simp [Piece.written]

/-- No piece is read where a line ends: one that starts with a backslash has a character behind
it. -/
theorem piece_ne_leftover (p : Piece) (a : Text) (d : Bool) : p.written ++ a ≠ leftover d := by
  cases p with
  | bare c hc =>
    have hne := bare_ne hc
    cases d <;> simp [Piece.written, leftover, hne.2.2.2]
  | _ => cases d <;> simp [Piece.written, leftover]

theorem space_ne_leftover (a : Text) (d : Bool) : .char ' ' :: a ≠ leftover d := by
  cases d <;> simp [leftover]

theorem leftover_injective {d e : Bool} (h : leftover d = leftover e) : d = e := by
  cases d <;> cases e <;> simp_all [leftover]

theorem piece_written_ne_nil (p : Piece) : p.written ≠ [] := by
  cases p <;> simp [Piece.written]

/-- A text is written by at most one derivation. The induction is on its length; in each round both
derivations must start alike. -/
theorem written_injective (l m : Line) (h : l.written = m.written) : l = m := by
  induction hn : l.written.length using Nat.strongRecOn generalizing l m with
  | ind n ih =>
    obtain ⟨d, rfl⟩ | ⟨l, rfl⟩ | ⟨p, l, rfl⟩ := line_cases l
    · obtain ⟨e, rfl⟩ | ⟨m, rfl⟩ | ⟨q, m, rfl⟩ := line_cases m
      · rw [written_ending, written_ending] at h
        rw [leftover_injective h]
      · exact absurd h.symm (space_ne_leftover _ d)
      · rw [written_piece] at h
        exact absurd h.symm (piece_ne_leftover q _ d)
    · obtain ⟨e, rfl⟩ | ⟨m, rfl⟩ | ⟨q, m, rfl⟩ := line_cases m
      · exact absurd h (space_ne_leftover _ e)
      · rw [written_space, written_space, List.cons.injEq] at h
        rw [written_space, List.length_cons] at hn
        rw [ih l.written.length (by omega) l m h.2 rfl]
      · rw [written_space, written_piece] at h
        exact absurd h.symm (piece_ne_space q _ _)
    · rw [written_piece] at h hn
      obtain ⟨e, rfl⟩ | ⟨m, rfl⟩ | ⟨q, m, rfl⟩ := line_cases m
      · exact absurd h (piece_ne_leftover p _ e)
      · exact absurd h (piece_ne_space p _ _)
      · rw [written_piece] at h
        obtain ⟨hpq, hrest⟩ := piece_prefix_free p q _ _ h
        have hpos := List.length_pos_iff.mpr (piece_written_ne_nil p)
        rw [List.length_append] at hn
        rw [hpq, ih l.written.length (by omega) l m hrest rfl]

end PipelineShell.Quoting
