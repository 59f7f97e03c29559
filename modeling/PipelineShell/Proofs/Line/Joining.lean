import PipelineShell.Proofs.Line.Grouping
import PipelineShell.Proofs.Line.Scanning

/-!
# Joining lines with a pipe

Behind `a |` and a space, `tokenize` and `parse` go on as at the start of a line, with the words and
stages of `a` in front.
-/

namespace PipelineShell

/-! ### Words behind words -/

namespace Word.Scan

/-- The same scan with words found before it, which are held in reverse. -/
def behind (words : List Word) (s : Scan) : Scan := { s with words := s.words ++ words }

variable {words : List Word}

theorem push_behind (s : Scan) (c : Rune) : (s.behind words).push c = (s.push c).behind words := rfl

theorem close_behind (s : Scan) : (s.behind words).close = s.close.behind words := by
  unfold close
  by_cases hempty : s.reversed.isEmpty = true
  · rw [if_pos hempty, if_pos (show (s.behind words).reversed.isEmpty = true from hempty)]
    rfl
  · rw [if_neg hempty, if_neg (show ¬(s.behind words).reversed.isEmpty = true from hempty)]
    rfl

theorem step_behind (s : Scan) (c : Rune) : (s.behind words).step c = (s.step c).behind words := by
  have hmode : (s.behind words).mode = s.mode := rfl
  cases hm : s.mode with
  | single =>
    simp only [step, hmode, hm]
    split <;> rfl
  | double =>
    simp only [step, hmode, hm]
    split
    · rfl
    · split <;> rfl
  | doubleEscape =>
    simp only [step, hmode, hm]
    split <;> rfl
  | bareEscape =>
    simp only [step, hmode, hm]
    rfl
  | bare =>
    simp only [step, hmode, hm]
    split
    · rfl
    · split
      · rfl
      · split
        · exact close_behind s
        · split <;> rfl

theorem foldl_behind (t : Text) (s : Scan) :
    t.foldl step (s.behind words) = (t.foldl step s).behind words := by
  induction t generalizing s with
  | nil => rfl
  | cons c t ih => rw [List.foldl_cons, List.foldl_cons, step_behind, ih]

theorem finish_behind (s : Scan) :
    (s.behind words).finish = s.finish.map (words.reverse ++ ·) := by
  have hmode : (s.behind words).mode = s.mode := rfl
  unfold finish
  rw [hmode, close_behind]
  cases s.mode.openMark? with
  | some mark => rfl
  | none => exact congrArg Except.ok List.reverse_append

end Word.Scan

namespace Quoting
open Word (Scan)

/-- The text ends in a backslash that stands outside quotes and escapes nothing. -/
def Dangles (t : Text) : Prop := ∃ l : Line, l.written = t ∧ l.dangling = true

theorem dangles_written (l : Line) : Dangles l.written ↔ l.dangling = true := by
  constructor
  · rintro ⟨m, hm, hd⟩
    rw [← written_injective m l hm, hd]
  · intro hd
    exact ⟨l, rfl, hd⟩

/-- A pipe between spaces ends the last word of the line before it and is a word of its own. -/
theorem foldl_pipe {s : Scan} {words : List Word} (hmode : s.mode = .bare)
    (hclose : s.close = between words) :
    [.char ' ', .char '|', .char ' '].foldl Scan.step s =
      between (Word.plain [.char '|'] :: words) := by
  have hspace : Scan.step s ' ' = between words := by
    rw [← hclose]
    simp [Scan.step, hmode]
  rw [List.foldl_cons, hspace]
  rfl

theorem scan_piped {a : Text} {words : List Word} (ha : Word.scan a = .ok words) (hd : ¬Dangles a)
    (b : Text) : Word.scan (a ++ [.char ' ', .char '|', .char ' '] ++ b) =
      (Word.scan b).map fun more => words ++ Word.plain [.char '|'] :: more := by
  obtain ⟨l, rfl, rfl⟩ := line_of_scan ha
  rw [dangles_written, Bool.not_eq_true] at hd
  obtain ⟨hmode, hclose⟩ := foldl_line l hd
  have hstart : between (Word.plain [.char '|'] :: l.words.reverse) =
      ({} : Scan).behind (Word.plain [.char '|'] :: l.words.reverse) := rfl
  rw [Word.scan, List.foldl_append, List.foldl_append, foldl_pipe hmode hclose, hstart,
    Scan.foldl_behind, Scan.finish_behind]
  simp [Word.scan]

end Quoting

/-! ### Stages behind stages -/

namespace Pipeline

/-- The pipeline with another one in front of it; of two redirections of one output the second
counts. -/
def after (p q : Pipeline) : Pipeline :=
  ⟨p.stages ++ q.stages, q.stdout.or p.stdout, q.stderr.or p.stderr⟩

namespace Grouping

/-- What has been grouped, as a pipeline of its own. -/
def pipeline (g : Grouping) : Pipeline := ⟨g.stages.reverse, g.stdout, g.stderr⟩

theorem run_between {g : Grouping} (hcurrent : g.current = []) (hpending : g.pending = none)
    (words : List Word) : g.run words = (ofWords words).map g.pipeline.after := by
  have hsegments := prepend_nil (segments_ne_nil (parts words).1)
  rw [run_eq_outcome words g hpending, ofWords_eq_reference]
  simp only [outcome, reference, hcurrent, List.reverse_nil, hsegments]
  split
  · rfl
  · cases (parts words).2 with
    | some op => rfl
    | none =>
      simp only
      split <;> rfl

/-- A grouping that can end here can go on with a pipe instead, which ends the last stage. -/
theorem step_pipe_of_finish {g : Grouping} {p : Pipeline} (h : g.finish = .ok p) :
    ∃ next, g.step (Word.plain [.char '|']) = .ok next ∧ next.current = [] ∧ next.pending = none ∧
      next.pipeline = p := by
  unfold finish at h
  split at h
  · cases h
  · next hpending =>
    have hstep : g.step (Word.plain [.char '|']) = g.close := by
      have hpipe : (Word.plain [.char '|']).operator? = some .pipe := rfl
      simp only [step, hpending, hpipe]
    cases hclose : g.close with
    | error e =>
      rw [hclose] at h
      cases h
    | ok next =>
      rw [hclose] at h
      refine ⟨next, hstep.trans hclose, ?_⟩
      unfold close at hclose
      split at hclose
      · cases hclose
      · cases hclose
        cases h
        exact ⟨rfl, hpending, rfl⟩

end Grouping

theorem ofWords_piped {words : List Word} {p : Pipeline} (h : ofWords words = .ok p)
    (more : List Word) :
    ofWords (words ++ Word.plain [.char '|'] :: more) = (ofWords more).map p.after := by
  cases hwords : words.foldlM Grouping.step {} with
  | error e => simp [ofWords, hwords] at h
  | ok g =>
    have hfinish : g.finish = .ok p := by simpa [ofWords, hwords] using h
    obtain ⟨next, hstep, hcurrent, hpending, rfl⟩ := Grouping.step_pipe_of_finish hfinish
    have hfold : (words ++ Word.plain [.char '|'] :: more).foldlM Grouping.step {} =
        more.foldlM Grouping.step next := by
      rw [List.foldlM_append, hwords]
      show (g.step (Word.plain [.char '|']) >>= fun g => more.foldlM Grouping.step g) = _
      rw [hstep]
      rfl
    rw [← Grouping.run_between hcurrent hpending, ofWords, hfold]
    rfl

/-- `a | b` is the pipeline of the stages of both, with the redirections of `b` where it has any and
else those of `a`. An error of `b` is the error of the whole. -/
theorem ofLine_piped {a b : Text} {p : Pipeline} (ha : ofLine a = .ok p)
    (hd : ¬Quoting.Dangles a) :
    (∀ q, ofLine b = .ok q → ofLine (a ++ [.char ' ', .char '|', .char ' '] ++ b) =
      .ok ⟨p.stages ++ q.stages, q.stdout.or p.stdout, q.stderr.or p.stderr⟩) ∧
    ∀ e, ofLine b = .error e → ofLine (a ++ [.char ' ', .char '|', .char ' '] ++ b) = .error e := by
  have hwhole : ofLine (a ++ [.char ' ', .char '|', .char ' '] ++ b) = (ofLine b).map p.after := by
    unfold ofLine at ha
    split at ha
    · cases ha
    · next words hwords =>
      unfold ofLine
      rw [Quoting.scan_piped hwords hd]
      cases hb : Word.scan b with
      | error mark => rfl
      | ok more => exact ofWords_piped ha more
  rw [hwhole]
  constructor
  · intro q hq
    rw [hq]
    rfl
  · intro e he
    rw [he]
    rfl

/-- The first line holds quotes with nothing in them, redirects both outputs and ends in a backslash
that is escaped; behind the pipe one output is redirected again, or a stage has no word. -/
theorem ofLine_piped_redirected :
    ofLine "e '' > o 2>> x\\\\ | 2> f g".runes =
        .ok ⟨[⟨[.char 'e'], []⟩, ⟨[.char 'g'], []⟩], some ⟨[.char 'o'], false⟩,
          some ⟨[.char 'f'], false⟩⟩ ∧
      ofLine "e '' > o 2>> x\\\\ | 2> f | g".runes = .error .emptyCommand := by
  have hd : ¬Quoting.Dangles "e '' > o 2>> x\\\\".runes := by
    have hwritten := Quoting.dangles_written
      ⟨0, .cons ⟨.bare 'e' (by decide), []⟩ 0
        (.cons ⟨.single [] (by decide), []⟩ 0
          (.cons ⟨.bare '>' (by decide), []⟩ 0
            (.cons ⟨.bare 'o' (by decide), []⟩ 0
              (.cons ⟨.bare '2' (by decide), [.bare '>' (by decide), .bare '>' (by decide)]⟩ 0
                (.last ⟨.bare 'x' (by decide), [.escape '\\']⟩))))), false⟩
    exact fun h => absurd (hwritten.mp h) (by decide)
  have ha : ofLine "e '' > o 2>> x\\\\".runes =
      .ok ⟨[⟨[.char 'e'], []⟩], some ⟨[.char 'o'], false⟩, some ⟨"x\\".runes, true⟩⟩ := by rfl
  constructor
  · exact (ofLine_piped (b := "2> f g".runes) ha hd).1 _ (by rfl)
  · exact (ofLine_piped (b := "2> f | g".runes) ha hd).2 .emptyCommand (by rfl)

end Pipeline
end PipelineShell
