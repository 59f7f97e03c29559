import Mathlib.Data.List.Basic
import PipelineShell.Proofs.Line.Rendering

/-!
# A name alone on a line

A name and a space are the pipeline of that one command exactly if no character of the name is
special and the name is no operator. The converse compares lengths: each quoting mark costs a
character.
-/

namespace PipelineShell
open Quoting (Piece Chunk Row Line)

/-- A text that stands for itself when it is written without marks. -/
structure Text.Bare (t : Text) : Prop where
  nonempty : t ≠ []
  unmarked : ∀ c ∈ t, c ∉ [.char ' ', .char '\'', .char '"', .char '\\']
  not_pipe : t ≠ [.char '|']
  not_redirect : ∀ op : RedirectOperator, t ≠ op.spelling

/-- The pipeline of one command without arguments. -/
def Pipeline.alone (name : Text) : Pipeline := ⟨[⟨name, []⟩], none, none⟩

theorem operator?_plain_eq_none_iff (t : Text) :
    (Word.plain t).operator? = none ↔
      t ≠ [.char '|'] ∧ ∀ op : RedirectOperator, t ≠ op.spelling := by
  constructor
  · intro h
    refine ⟨?_, ?_⟩
    · rintro rfl
      cases h
    · intro op hop
      have hredirect := (operator?_eq_redirect_iff (Word.plain t) op).2 ⟨rfl, hop⟩
      rw [h] at hredirect
      cases hredirect
  · rintro ⟨hpipe, hredirect⟩
    cases hop : (Word.plain t).operator? with
    | none => rfl
    | some operator =>
      cases operator with
      | pipe => simp [Word.operator?, Word.plain, hpipe] at hop
      | redirect op =>
        have hspelled := ((operator?_eq_redirect_iff (Word.plain t) op).1 hop).2
        exact absurd hspelled (hredirect op)

/-! ### The words of such a pipeline -/

namespace Pipeline

theorem ofWords_of_word {w : Word} (h : w.operator? = none) : ofWords [w] = .ok (alone w.text) := by
  have hstep : Grouping.step {} w = .ok { current := [w.text] } := by
    simp only [Grouping.step, h]
  rw [ofWords_eq_run, run_cons, hstep]
  rfl

theorem no_redirect_of_last {ps : List Part} (hout : lastRedirect .stdout ps = none)
    (herr : lastRedirect .stderr ps = none) (op : RedirectOperator) (target : Text) :
    Part.redirect op target ∉ ps := by
  intro hmem
  have hlast : lastRedirect op.output ps = none := by
    cases op.output with
    | stdout => exact hout
    | stderr => exact herr
  rw [lastRedirect, List.getLast?_eq_none_iff, List.filterMap_eq_nil_iff] at hlast
  have hnone := hlast _ hmem
  simp [Part.redirect?] at hnone

theorem eq_words_of_segments {ps : List Part} {segment : List Text}
    (h : segments ps = [segment]) (hps : ∀ op target, Part.redirect op target ∉ ps) :
    ps = segment.map Part.word := by
  induction ps generalizing segment with
  | nil =>
    cases h
    rfl
  | cons p ps ih =>
    have hrest : ∀ op target, Part.redirect op target ∉ ps :=
      fun op target hmem => hps op target (List.mem_cons_of_mem p hmem)
    cases p with
    | pipe => exact absurd (List.cons.inj h).2 (segments_ne_nil ps)
    | redirect op target => exact absurd List.mem_cons_self (hps op target)
    | word t =>
      obtain ⟨first, others, hsegments⟩ := List.exists_cons_of_ne_nil (segments_ne_nil ps)
      rw [segments, hsegments] at h
      obtain ⟨hfront, hothers⟩ := List.cons.inj h
      rw [hothers] at hsegments
      rw [ih hsegments hrest, ← hfront]
      rfl

theorem eq_nil_of_parts {words : List Word} (h : parts words = ([], none)) : words = [] := by
  cases words with
  | nil => rfl
  | cons w rest =>
    unfold parts at h
    split at h
    · cases h
    · cases h
    · split at h <;> cases h

theorem eq_word_of_parts {words : List Word} {t : Text} (h : parts words = ([.word t], none)) :
    ∃ w : Word, words = [w] ∧ w.text = t ∧ w.operator? = none := by
  cases words with
  | nil => cases h
  | cons w rest =>
    unfold parts at h
    split at h
    · next hop =>
      obtain ⟨hparts, hdangling⟩ := Prod.mk.inj h
      obtain ⟨htext, hrest⟩ := List.cons.inj hparts
      have hnil : rest = [] := eq_nil_of_parts (Prod.ext hrest hdangling)
      exact ⟨w, by rw [hnil], Part.word.inj htext, hop⟩
    · cases h
    · split at h <;> cases h

/-- One command without arguments and redirections is what one word makes that is no operator. -/
theorem ofWords_eq_alone_iff (words : List Word) (name : Text) :
    ofWords words = .ok (alone name) ↔
      ∃ w : Word, words = [w] ∧ w.text = name ∧ w.operator? = none := by
  constructor
  · intro h
    rw [ofWords_eq_reference, reference] at h
    simp only at h
    split at h
    · cases h
    · cases hdangling : (parts words).2 with
      | some op =>
        rw [hdangling] at h
        cases h
      | none =>
        rw [hdangling] at h
        simp only at h
        split at h
        · cases h
        · next hlast =>
          obtain ⟨hstages, hout, herr⟩ := Pipeline.mk.inj (Except.ok.inj h)
          obtain ⟨segment, hsegments, hcommand⟩ := List.map_eq_singleton_iff.1 hstages
          have hsegment : segment = [name] := by
            obtain ⟨hname, hargs⟩ := Command.mk.inj hcommand
            cases segment with
            | nil => exact absurd (by rw [hsegments]; rfl) hlast
            | cons t ts =>
              have hname : t = name := hname
              have hargs : ts = [] := hargs
              rw [hname, hargs]
          have hparts := eq_words_of_segments hsegments (no_redirect_of_last hout herr)
          rw [hsegment] at hparts
          exact eq_word_of_parts (Prod.ext hparts hdangling)
  · rintro ⟨w, rfl, rfl, hop⟩
    exact ofWords_of_word hop

end Pipeline

/-! ### What reading costs -/

namespace Quoting

def Row.value (r : Row) : Text := r.chunks.flatMap Chunk.value

theorem length_units_le (units : List DoubleUnit) :
    (units.flatMap DoubleUnit.value).length ≤ (units.flatMap DoubleUnit.written).length := by
  induction units with
  | nil => exact Nat.le_refl _
  | cons u units ih =>
    have hu : u.value.length ≤ u.written.length := by
      cases u with
      | pair c =>
        unfold DoubleUnit.value
        dsimp only [DoubleUnit.written]
        split <;> simp
      | plain c hc => exact Nat.le_refl _
    simp only [List.flatMap_cons, List.length_append]
    omega

theorem length_value_lt {p : Piece} (h : p.marked = true) : p.value.length < p.written.length := by
  cases p with
  | bare c hc => cases h
  | escape c => simp [Piece.value, Piece.written]
  | single body hb =>
    simp only [Piece.value, Piece.written, List.length_cons, List.length_append]
    omega
  | double units =>
    have hunits := length_units_le units
    simp only [Piece.value, Piece.written, List.length_cons, List.length_append]
    omega

/-- Pieces stand for fewer characters than they are written with, unless all of them are bare. -/
theorem pieces_cost (ps : List Piece) :
    (ps.flatMap Piece.value).length < (ps.flatMap Piece.written).length ∨
      ps.any Piece.marked = false ∧ ps.flatMap Piece.value = ps.flatMap Piece.written ∧
        ∀ c ∈ ps.flatMap Piece.written, c ∉ [.char ' ', .char '\'', .char '"', .char '\\'] := by
  induction ps with
  | nil => exact .inr ⟨rfl, rfl, by simp⟩
  | cons p ps ih =>
    simp only [List.flatMap_cons, List.length_append, List.any_cons, List.forall_mem_append]
    have hrest : (ps.flatMap Piece.value).length ≤ (ps.flatMap Piece.written).length := by
      rcases ih with hless | ⟨-, hsame, -⟩
      · exact Nat.le_of_lt hless
      · exact Nat.le_of_eq (congrArg List.length hsame)
    cases hp : p.marked with
    | true =>
      have hless := length_value_lt hp
      exact .inl (by omega)
    | false =>
      cases p with
      | bare c hc =>
        rcases ih with hless | ⟨hmarked, hsame, hbare⟩
        · exact .inl (by simp only [Piece.value, Piece.written]; omega)
        · exact .inr ⟨by simpa using hmarked, by rw [hsame]; rfl, by simpa [Piece.written] using hc,
            hbare⟩
      | _ => cases hp

theorem length_chunk_le (c : Chunk) : c.value.length ≤ c.written.length := by
  rcases pieces_cost c.pieces with hless | ⟨-, hsame, -⟩
  · exact Nat.le_of_lt hless
  · exact Nat.le_of_eq (congrArg List.length hsame)

theorem length_row_le (r : Row) : r.value.length ≤ r.written.length := by
  induction r with
  | nil => exact Nat.le_refl _
  | last c => simpa [Row.value, Row.chunks, Row.written] using length_chunk_le c
  | cons c more r ih =>
    have hc := length_chunk_le c
    simp only [Row.value, Row.chunks, Row.written, List.flatMap_cons, List.length_append] at ih ⊢
    omega

theorem text_of_words (r : Row) :
    ((r.chunks.filterMap Chunk.word?).flatMap Word.text) = r.value := by
  unfold Row.value
  induction r.chunks with
  | nil => rfl
  | cons c chunks ih =>
    by_cases hc : c.value = []
    · have hword : c.word? = none := if_pos hc
      rw [List.filterMap_cons_none hword, List.flatMap_cons, hc, List.nil_append, ih]
    · have hword : c.word? = some ⟨c.value, c.marked⟩ := if_neg hc
      rw [List.filterMap_cons_some hword, List.flatMap_cons, List.flatMap_cons, ih]

theorem written_ne_nil (c : Chunk) : c.written ≠ [] := by
  simp [Chunk.written, Chunk.pieces, piece_written_ne_nil]

theorem eq_escape_of_space {p : Piece} (h : p.written.getLast? = some (.char ' ')) :
    p = .escape ' ' := by
  cases p with
  | bare c hc =>
    have hne := bare_ne hc
    exact absurd (Option.some.inj h) hne.1
  | escape c =>
    have hc : c = ' ' := Option.some.inj h
    rw [hc]
  | single body hb =>
    rw [Piece.written, ← List.cons_append, List.getLast?_concat] at h
    cases h
  | double units =>
    rw [Piece.written, ← List.cons_append, List.getLast?_concat] at h
    cases h

theorem chunk_of_space {c : Chunk} {t : Text} (h : c.written = t ++ [.char ' ']) :
    t.getLast? = some (.char '\\') ∧ c.value.getLast? = some (.char ' ') := by
  obtain ⟨front, p, hpieces⟩ : ∃ front p, c.pieces = front ++ [p] := by
    rcases List.eq_nil_or_concat c.pieces with hnil | ⟨front, p, hpieces⟩
    · cases hnil
    · exact ⟨front, p, by rw [hpieces, List.concat_eq_append]⟩
  have hwritten : front.flatMap Piece.written ++ p.written = t ++ [.char ' '] := by
    rw [← h, Chunk.written, hpieces]
    simp
  have hlast := congrArg List.getLast? hwritten
  rw [List.getLast?_append_of_ne_nil _ (piece_written_ne_nil p), List.getLast?_concat] at hlast
  obtain rfl := eq_escape_of_space hlast
  refine ⟨?_, ?_⟩
  · have hfront :
        front.flatMap Piece.written ++ [.char '\\'] ++ [.char ' '] = t ++ [.char ' '] := by
      rw [← hwritten, List.append_assoc]
      rfl
    rw [← List.append_cancel_right hfront, List.getLast?_concat]
  · rw [Chunk.value, hpieces, List.flatMap_append]
    simp [Piece.value]

/-! ### The line of a name -/

theorem line_of_bare {w : Text} (h : w.Bare) :
    Word.scan (w ++ [.char ' ']) = .ok [Word.plain w] := by
  obtain ⟨c, hwritten, hword⟩ := Pipeline.spelled_plain h.nonempty h.unmarked
  have hscan := scan_written ⟨0, .cons c 0 .nil, false⟩
  have hline : c.written = w := hwritten
  simpa [Line.written, Line.words, Row.written, Row.chunks, spaces, leftover, hline, hword]
    using hscan

/-- The space behind a name is not part of its last chunk: there it would need a backslash, and the
name would end with both. -/
theorem value_ne_of_last {lead : Nat} {c : Chunk} {w : Text}
    (h : spaces lead ++ c.written = w ++ [.char ' ']) : c.value ≠ w := by
  intro hvalue
  have hlast := congrArg List.getLast? h
  rw [List.getLast?_append_of_ne_nil _ (written_ne_nil c), List.getLast?_concat] at hlast
  obtain ⟨t, ht⟩ := List.getLast?_eq_some_iff.1 hlast
  obtain ⟨hslash, hspace⟩ := chunk_of_space ht
  have hw : spaces lead ++ t = w := by
    rw [ht, ← List.append_assoc] at h
    exact List.append_cancel_right h
  have hne : t ≠ [] := by
    rintro rfl
    cases hslash
  rw [hvalue, ← hw, List.getLast?_append_of_ne_nil _ hne, hslash] at hspace
  cases hspace

theorem bare_of_first {lead more : Nat} {c : Chunk} {r : Row} {w : Text}
    (h : spaces lead ++ (Row.cons c more r).written = w ++ [.char ' '])
    (hw : c.value ++ r.value = w) :
    c.marked = false ∧ c.value = c.written ∧
      ∀ e ∈ c.written, e ∉ [.char ' ', .char '\'', .char '"', .char '\\'] := by
  have hlengths := congrArg List.length h
  have hchunk := length_chunk_le c
  have hrow := length_row_le r
  simp only [Row.written, spaces, List.length_append, List.length_replicate,
    List.length_singleton, ← hw] at hlengths
  rcases pieces_cost c.pieces with hless | hbare
  · have hless : c.value.length < c.written.length := hless
    omega
  · exact hbare

/-- A line that is a text with a space behind it, and reads as one word of this text, has nothing
else in it than characters that stand for themselves. -/
theorem bare_of_line {l : Line} {w : Text} {word : Word} (hwritten : l.written = w ++ [.char ' '])
    (hwords : l.words = [word]) (htext : word.text = w) :
    word = Word.plain w ∧ w ≠ [] ∧ ∀ c ∈ w, c ∉ [.char ' ', .char '\'', .char '"', .char '\\'] := by
  obtain ⟨lead, row, dangling⟩ := l
  have hvalue : row.value = w := by
    rw [← text_of_words, show row.chunks.filterMap Chunk.word? = [word] from hwords, ← htext]
    simp
  cases dangling with
  | true =>
    have hlast : ((spaces lead ++ row.written) ++ [Rune.char '\\']).getLast? =
        (w ++ [Rune.char ' ']).getLast? := by
      rw [← hwritten, List.append_assoc]
      rfl
    rw [List.getLast?_concat, List.getLast?_concat] at hlast
    cases hlast
  | false =>
    have hline : spaces lead ++ row.written = w ++ [.char ' '] := by
      rw [← hwritten]
      simp [Line.written, leftover]
    cases row with
    | nil => cases hwords
    | last c =>
      have hchunk : c.value = w := by simpa [Row.value, Row.chunks] using hvalue
      exact absurd hchunk (value_ne_of_last hline)
    | cons c more r =>
      have hparts : c.value ++ r.value = w := hvalue
      obtain ⟨hmarked, hsame, hunmarked⟩ := bare_of_first hline hparts
      have hne : c.value ≠ [] := hsame ▸ written_ne_nil c
      have hword : c.word? = some (Word.plain c.value) := by
        rw [Chunk.word?, if_neg hne, hmarked]
        rfl
      have hwords : Word.plain c.value :: r.chunks.filterMap Chunk.word? = [word] := by
        rw [← hwords, Line.words, Row.chunks, List.filterMap_cons_some hword]
      obtain ⟨hfirst, hrest⟩ := List.cons.inj hwords
      have hempty : r.value = [] := by
        rw [← text_of_words, hrest]
        rfl
      rw [hempty, List.append_nil] at hparts
      rw [hparts] at hfirst hne hsame
      exact ⟨hfirst.symm, hne, hsame ▸ hunmarked⟩

end Quoting

namespace Pipeline

theorem ofLine_name_iff (w : Text) : ofLine (w ++ [.char ' ']) = .ok (alone w) ↔ w.Bare := by
  constructor
  · intro h
    unfold ofLine at h
    split at h
    · cases h
    · next words hscan =>
      obtain ⟨word, rfl, htext, hop⟩ := (ofWords_eq_alone_iff words w).1 h
      obtain ⟨l, hwritten, hwords⟩ := Quoting.line_of_scan hscan
      obtain ⟨rfl, hne, hunmarked⟩ := Quoting.bare_of_line hwritten hwords htext
      obtain ⟨hpipe, hredirect⟩ := (operator?_plain_eq_none_iff w).1 hop
      exact ⟨hne, hunmarked, hpipe, hredirect⟩
  · intro h
    have hop := (operator?_plain_eq_none_iff w).2 ⟨h.not_pipe, h.not_redirect⟩
    have hscan := Quoting.line_of_bare h
    unfold ofLine
    rw [hscan]
    exact ofWords_of_word hop

example : ofLine "2> ".runes = .error (.missingTarget .err) := by rfl

end Pipeline
end PipelineShell
