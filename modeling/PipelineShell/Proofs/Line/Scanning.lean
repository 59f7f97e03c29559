import PipelineShell.Proofs.Line.Quoting

/-!
# `tokenize` against the quoting grammar

`tokenize` accepts the texts of the grammar and returns a word for each chunk; for any other text it
names the quote that is left open.
-/

namespace PipelineShell.Quoting
open Word (Scan)

/-! ### Texts outside the grammar -/

/-- What may follow a quotation mark that is never closed. -/
def OpenBody : QuoteMark → Text → Prop
  | .single, t => .char '\'' ∉ t
  | .double, t => ∃ (units : List DoubleUnit) (d : Bool),
      t = units.flatMap DoubleUnit.written ++ leftover d

/-- The text leaves a quotation mark open: it is a line, the mark and the body behind it. -/
def LeftOpen (mark : QuoteMark) (t : Text) : Prop :=
  ∃ (l : Line) (body : Text),
    l.dangling = false ∧ OpenBody mark body ∧ t = l.written ++ mark.char :: body

def LineOrOpen (t : Text) : Prop := (∃ l : Line, l.written = t) ∨ ∃ mark, LeftOpen mark t

theorem lineOrOpen_space {t : Text} (h : LineOrOpen t) : LineOrOpen (.char ' ' :: t) := by
  obtain ⟨l, rfl⟩ | ⟨mark, l, body, hd, hb, rfl⟩ := h
  · exact .inl ⟨l.space, written_space l⟩
  · exact .inr ⟨mark, l.space, body, hd, hb, by rw [written_space]; rfl⟩

theorem lineOrOpen_piece (p : Piece) {t : Text} (h : LineOrOpen t) :
    LineOrOpen (p.written ++ t) := by
  obtain ⟨l, rfl⟩ | ⟨mark, l, body, hd, hb, rfl⟩ := h
  · exact .inl ⟨l.piece p, written_piece p l⟩
  · refine .inr ⟨mark, l.piece p, body, ?_, hb, ?_⟩
    · rw [dangling_piece, hd]
    · rw [written_piece, List.append_assoc]

theorem leftOpen_mark {mark : QuoteMark} {body : Text} (h : OpenBody mark body) :
    LineOrOpen (mark.char :: body) :=
  .inr ⟨mark, Line.ending false, body, rfl, h, rfl⟩

theorem units_cases (n : Nat) (t : Text) (hn : t.length ≤ n) :
    (∃ (units : List DoubleUnit) (rest : Text),
        t = units.flatMap DoubleUnit.written ++ .char '"' :: rest) ∨
      OpenBody .double t := by
  induction n generalizing t with
  | zero =>
    have ht : t = [] := List.eq_nil_of_length_eq_zero (by omega)
    exact .inr ⟨[], false, by simp [ht, leftover]⟩
  | succ n ih =>
    -- a unit in front of a text that has been read
    have extend (u : DoubleUnit) (r : Text) (hr : r.length ≤ n) :
        (∃ (units : List DoubleUnit) (rest : Text),
            u.written ++ r = units.flatMap DoubleUnit.written ++ .char '"' :: rest) ∨
          OpenBody .double (u.written ++ r) := by
      obtain ⟨us, rest, hus⟩ | ⟨us, d, hus⟩ := ih r hr
      · exact .inl ⟨u :: us, rest, by rw [hus, List.flatMap_cons, List.append_assoc]⟩
      · exact .inr ⟨u :: us, d, by rw [hus, List.flatMap_cons, List.append_assoc]⟩
    cases t with
    | nil => exact .inr ⟨[], false, rfl⟩
    | cons c r =>
      rw [List.length_cons] at hn
      by_cases hq : c = '"'
      · exact .inl ⟨[], r, by simp [hq]⟩
      by_cases hb : c = '\\'
      · cases r with
        | nil => exact .inr ⟨[], true, by simp [hb, leftover]⟩
        | cons e r =>
          rw [List.length_cons] at hn
          rw [hb]
          exact extend (.pair e) r (by omega)
      · exact extend (.plain c (by simp [hq, hb])) r (by omega)

/-- Every text is a line or leaves a mark open: pieces and spaces are taken off its front until
nothing is left or a mark has no partner. -/
theorem lineOrOpen (t : Text) : LineOrOpen t := by
  induction hn : t.length using Nat.strongRecOn generalizing t with
  | ind n ih =>
    have take (p : Piece) (r : Text) (hr : r.length < n) : LineOrOpen (p.written ++ r) :=
      lineOrOpen_piece p (ih r.length hr r rfl)
    cases t with
    | nil => exact .inl ⟨Line.ending false, rfl⟩
    | cons c r =>
      rw [List.length_cons] at hn
      by_cases hsp : c = ' '
      · rw [hsp]
        exact lineOrOpen_space (ih r.length (by omega) r rfl)
      by_cases hesc : c = '\\'
      · rw [hesc]
        cases r with
        | nil => exact .inl ⟨Line.ending true, rfl⟩
        | cons e r =>
          rw [List.length_cons] at hn
          exact take (.escape e) r (by omega)
      by_cases hsq : c = '\''
      · rw [hsq]
        by_cases hm : .char '\'' ∈ r
        · obtain ⟨body, rest, hrest, hbody⟩ := List.eq_append_cons_of_mem hm
          have hw : .char '\'' :: r = (Piece.single body hbody).written ++ rest := by
            simp [Piece.written, hrest]
          rw [hw]
          refine take _ rest ?_
          have := congrArg List.length hrest
          simp only [List.length_append, List.length_cons] at this
          omega
        · exact leftOpen_mark (show OpenBody .single r from hm)
      by_cases hdq : c = '"'
      · rw [hdq]
        obtain ⟨us, rest, hrest⟩ | hopen := units_cases r.length r (Nat.le_refl _)
        · have hw : .char '"' :: r = (Piece.double us).written ++ rest := by
            simp [Piece.written, hrest]
          rw [hw]
          refine take _ rest ?_
          have := congrArg List.length hrest
          simp only [List.length_append, List.length_cons] at this
          omega
        · exact leftOpen_mark hopen
      · exact take (.bare c (by simp [hsp, hesc, hsq, hdq])) r (by omega)

/-! ### The scanner on what is written -/

theorem foldl_unit (u : DoubleUnit) (s : Scan) (hs : s.mode = .double) :
    u.written.foldl Scan.step s = { s with reversed := u.value.reverse ++ s.reversed } := by
  obtain ⟨words, reversed, quoted, mode⟩ := s
  simp only at hs
  subst hs
  cases u with
  | pair c =>
    by_cases hc : Scan.isEscapable c
    · have hm : c ∈ [.char '"', .char '\\', .char '$', .char '`'] := by
        simpa [Scan.isEscapable, or_assoc] using hc
      simp [DoubleUnit.written, DoubleUnit.value, Scan.step, Scan.push, hc, hm]
    · have hm : c ∉ [.char '"', .char '\\', .char '$', .char '`'] := by
        simpa [Scan.isEscapable, or_assoc] using hc
      simp only [DoubleUnit.value, if_neg hm]
      simp [DoubleUnit.written, Scan.step, Scan.push, hc]
  | plain c hc =>
    have hne := plain_ne hc
    simp [DoubleUnit.written, DoubleUnit.value, Scan.step, Scan.push, hne]

theorem foldl_units (us : List DoubleUnit) (s : Scan) (hs : s.mode = .double) :
    (us.flatMap DoubleUnit.written).foldl Scan.step s =
      { s with reversed := (us.flatMap DoubleUnit.value).reverse ++ s.reversed } := by
  induction us generalizing s with
  | nil => rfl
  | cons u us ih =>
    rw [List.flatMap_cons, List.foldl_append, foldl_unit u s hs, ih]
    · simp
    · exact hs

theorem foldl_body {body : Text} (hb : .char '\'' ∉ body) (s : Scan) (hs : s.mode = .single) :
    body.foldl Scan.step s = { s with reversed := body.reverse ++ s.reversed } := by
  induction body generalizing s with
  | nil => rfl
  | cons c body ih =>
    have hc : c ≠ '\'' := fun h => hb (by simp [h])
    have hstep : Scan.step s c = s.push c := by simp [Scan.step, hs, hc]
    rw [List.foldl_cons, hstep, ih (List.not_mem_of_not_mem_cons hb)]
    · simp [Scan.push]
    · exact hs

theorem foldl_piece (p : Piece) (s : Scan) (hs : s.mode = .bare) :
    p.written.foldl Scan.step s =
      { s with reversed := p.value.reverse ++ s.reversed, quoted := s.quoted || p.marked } := by
  obtain ⟨words, reversed, quoted, mode⟩ := s
  simp only at hs
  subst hs
  cases p with
  | bare c hc =>
    have hne := bare_ne hc
    simp [Piece.written, Piece.value, Piece.marked, Scan.step, Scan.push, hne]
  | escape c => simp [Piece.written, Piece.value, Piece.marked, Scan.step, Scan.push]
  | single body hb =>
    rw [Piece.written, List.foldl_cons, List.foldl_append, foldl_body hb _ rfl]
    simp [Piece.value, Piece.marked, Scan.step]
  | double us =>
    rw [Piece.written, List.foldl_cons, List.foldl_append, foldl_units us _ rfl]
    simp [Piece.value, Piece.marked, Scan.step]

theorem foldl_pieces (ps : List Piece) (s : Scan) (hs : s.mode = .bare) :
    (ps.flatMap Piece.written).foldl Scan.step s =
      { s with
        reversed := (ps.flatMap Piece.value).reverse ++ s.reversed
        quoted := s.quoted || ps.any Piece.marked } := by
  induction ps generalizing s with
  | nil => simp
  | cons p ps ih =>
    rw [List.flatMap_cons, List.foldl_append, foldl_piece p s hs, ih]
    · simp [Bool.or_assoc]
    · exact hs

/-- The scanner between words, with the words found so far in reverse. -/
def between (words : List Word) : Scan := { words }

theorem close_between (words : List Word) : (between words).close = between words := rfl

theorem foldl_spaces (n : Nat) (s : Scan) (hs : s.mode = .bare) :
    (spaces (n + 1)).foldl Scan.step s = s.close := by
  have hstep (t : Scan) (ht : t.mode = .bare) : Scan.step t ' ' = t.close := by
    simp [Scan.step, ht]
  have hmode : s.close.mode = .bare := by
    unfold Scan.close
    split <;> exact hs
  have htwice : s.close.close = s.close := by
    unfold Scan.close
    split <;> simp_all
  induction n with
  | zero => exact hstep s hs
  | succ n ih =>
    have hsnoc : spaces (n + 1 + 1) = spaces (n + 1) ++ [.char ' '] := List.replicate_succ'
    rw [hsnoc, List.foldl_append, ih, List.foldl_cons, List.foldl_nil, hstep _ hmode, htwice]

theorem foldl_lead (n : Nat) (words : List Word) :
    (spaces n).foldl Scan.step (between words) = between words := by
  cases n with
  | zero => rfl
  | succ n => rw [foldl_spaces n _ rfl, close_between]

theorem foldl_chunk (c : Chunk) (words : List Word) :
    (c.written.foldl Scan.step (between words)).mode = .bare ∧
      (c.written.foldl Scan.step (between words)).close = between (c.word?.toList ++ words) := by
  rw [Chunk.written, foldl_pieces c.pieces _ rfl]
  refine ⟨rfl, ?_⟩
  by_cases hv : c.value = []
  · have hv' := hv
    rw [Chunk.value] at hv'
    simp [Scan.close, between, Chunk.word?, hv, hv']
  · have hv' := hv
    rw [Chunk.value] at hv'
    simp [Scan.close, between, Chunk.word?, hv', Chunk.value, Chunk.marked]

theorem foldl_row (r : Row) (words : List Word) :
    (r.written.foldl Scan.step (between words)).mode = .bare ∧
      (r.written.foldl Scan.step (between words)).close =
        between ((r.chunks.filterMap Chunk.word?).reverse ++ words) := by
  induction r generalizing words with
  | nil => exact ⟨rfl, rfl⟩
  | last c =>
    obtain ⟨hmode, hclose⟩ := foldl_chunk c words
    refine ⟨hmode, ?_⟩
    rw [Row.written, hclose]
    cases hw : c.word? <;> simp [Row.chunks, hw]
  | cons c n r ih =>
    obtain ⟨hmode, hclose⟩ := foldl_chunk c words
    have hrow := ih (c.word?.toList ++ words)
    rw [Row.written, List.foldl_append, List.foldl_append, foldl_spaces n _ hmode, hclose]
    refine ⟨hrow.1, ?_⟩
    rw [hrow.2]
    cases hw : c.word? <;> simp [Row.chunks, hw]

theorem foldl_line (l : Line) (hd : l.dangling = false) :
    (l.written.foldl Scan.step {}).mode = .bare ∧
      (l.written.foldl Scan.step {}).close = between l.words.reverse := by
  have hrow := foldl_row l.row []
  rw [List.append_nil] at hrow
  rw [Line.written, hd, leftover, if_neg (by simp), List.append_nil, List.foldl_append]
  exact (foldl_lead l.lead []).symm ▸ hrow

theorem finish_step_backslash (s : Scan) (hs : s.mode = .bare) :
    (Scan.step s '\\').finish = s.finish := by
  have hstep : Scan.step s '\\' = { s with mode := .bareEscape } := by simp [Scan.step, hs]
  rw [hstep]
  simp only [Scan.finish, Word.Mode.openMark?, hs, Scan.close]
  split <;> rfl

theorem scan_written (l : Line) : Word.scan l.written = .ok l.words := by
  have plain (m : Line) (hm : m.dangling = false) : Word.scan m.written = .ok m.words := by
    obtain ⟨hmode, hclose⟩ := foldl_line m hm
    simp [Word.scan, Scan.finish, hmode, hclose, Word.Mode.openMark?, between]
  cases hd : l.dangling with
  | false => exact plain l hd
  | true =>
    -- the same line without the backslash
    let m : Line := { l with dangling := false }
    have hw : l.written = m.written ++ [.char '\\'] := by
      simp [m, Line.written, hd, leftover]
    have hm := foldl_line m rfl
    have hscan : Word.scan m.written = .ok l.words := plain m rfl
    rw [Word.scan] at hscan ⊢
    rw [hw, List.foldl_append, List.foldl_cons, List.foldl_nil,
      finish_step_backslash _ hm.1, hscan]

theorem scan_leftOpen {mark : QuoteMark} {t : Text} (h : LeftOpen mark t) :
    Word.scan t = .error mark := by
  obtain ⟨l, body, hd, hbody, rfl⟩ := h
  obtain ⟨hmode, -⟩ := foldl_line l hd
  rw [Word.scan, List.foldl_append, List.foldl_cons]
  generalize l.written.foldl Scan.step {} = s at hmode
  cases mark with
  | single =>
    have hstep : Scan.step s '\'' = { s with mode := .single, quoted := true } := by
      simp [Scan.step, hmode]
    have hnot : .char '\'' ∉ body := hbody
    rw [QuoteMark.char, hstep, foldl_body hnot _ rfl]
    rfl
  | double =>
    obtain ⟨us, d, rfl⟩ := hbody
    have hstep : Scan.step s '"' = { s with mode := .double, quoted := true } := by
      simp [Scan.step, hmode]
    rw [QuoteMark.char, hstep, List.foldl_append, foldl_units us _ rfl]
    cases d with
    | false => rfl
    | true => simp [leftover, Scan.step, Scan.finish, Word.Mode.openMark?]

/-! ### The scanner and the grammar -/

theorem line_of_scan {t : Text} {words : List Word} (h : Word.scan t = .ok words) :
    ∃ l : Line, l.written = t ∧ l.words = words := by
  obtain ⟨l, rfl⟩ | ⟨mark, hopen⟩ := lineOrOpen t
  · rw [scan_written l, Except.ok.injEq] at h
    exact ⟨l, rfl, h⟩
  · rw [scan_leftOpen hopen] at h
    cases h

theorem leftOpen_of_scan {t : Text} {mark : QuoteMark} (h : Word.scan t = .error mark) :
    LeftOpen mark t := by
  obtain ⟨l, rfl⟩ | ⟨other, hopen⟩ := lineOrOpen t
  · rw [scan_written l] at h
    cases h
  · rw [scan_leftOpen hopen, Except.error.injEq] at h
    exact h ▸ hopen

/-- The scanner accepts the lines of the grammar, whose derivation is unique, and returns the words
of their chunks; a text is rejected exactly for the mark that it leaves open. -/
theorem scan_grammar (t : Text) :
    ((∃ words, Word.scan t = .ok words) ↔ ∃ l : Line, l.written = t) ∧
      (∀ l : Line, l.written = t →
        (∀ m : Line, m.written = t → m = l) ∧ Word.scan t = .ok l.words) ∧
      ∀ mark, Word.scan t = .error mark ↔ LeftOpen mark t := by
  refine ⟨⟨?_, ?_⟩, ?_, ?_⟩
  · rintro ⟨words, hw⟩
    obtain ⟨l, hl, -⟩ := line_of_scan hw
    exact ⟨l, hl⟩
  · rintro ⟨l, rfl⟩
    exact ⟨l.words, scan_written l⟩
  · rintro l rfl
    exact ⟨fun m hm => written_injective m l hm, scan_written l⟩
  · intro mark
    exact ⟨leftOpen_of_scan, scan_leftOpen⟩

/-- A line with every kind of piece, a chunk that stands for no word, and a lone backslash. -/
theorem scan_grammar_every_piece :
    Word.scan "  '' a\\|\"\\$b\\c\" > \\".runes =
      .ok [⟨"a|$b\\c".runes, true⟩, ⟨">".runes, false⟩] :=
  ((scan_grammar _).2.1
    ⟨2, .cons ⟨.single [] (by decide), []⟩ 0
      (.cons ⟨.bare 'a' (by decide), [.escape '|',
          .double [.pair '$', .plain 'b' (by decide), .pair 'c']]⟩ 0
        (.cons ⟨.bare '>' (by decide), []⟩ 0 .nil)), true⟩ (by decide)).2

end PipelineShell.Quoting
