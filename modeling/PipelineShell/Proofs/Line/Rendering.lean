import PipelineShell.Line.Layout
import PipelineShell.Proofs.Line.Grouping
import PipelineShell.Proofs.Line.Scanning

/-!
# Writing a pipeline as a line

Every pipeline without empty words has a line that `split_line` reads back as it, with all words
between single quotes.
-/

namespace PipelineShell
open Quoting (Piece Chunk Row Line)

/-! ### The written form -/

/-- A character between single quotes; the mark itself is written outside of them. -/
def quoteChar (c : Rune) : Text :=
  if c = '\'' then [.char '\'', .char '\\', .char '\'', .char '\''] else [c]

def Text.literal (t : Text) : Text := .char '\'' :: (t.flatMap quoteChar ++ [.char '\''])

def Command.render (c : Command) : Text := Text.join [.char ' '] (c.argv.map Text.literal)

/-- A redirection behind what stands before it, with the number of the output. -/
def Redirect.render (number : Text) (r : Redirect) : Text :=
  .char ' ' :: (number ++ r.sign ++ .char ' ' :: r.path.literal)

def Pipeline.render (p : Pipeline) : Text :=
  Text.join [.char ' ', .char '|', .char ' '] (p.stages.map Command.render) ++
    (p.stdout.elim [] (Redirect.render []) ++ p.stderr.elim [] (Redirect.render [.char '2']))

/-- The pipeline has a stage, and none of its texts is empty. -/
structure Pipeline.Proper (p : Pipeline) : Prop where
  stages_ne_nil : p.stages ≠ []
  argv_ne_nil : ∀ c ∈ p.stages, ∀ t ∈ c.argv, t ≠ []
  stdout_ne_nil : ∀ r ∈ p.stdout, r.path ≠ []
  stderr_ne_nil : ∀ r ∈ p.stderr, r.path ≠ []

/-! ### The words of the written form -/

def Word.literal (t : Text) : Word := ⟨t, true⟩

/-- A quoted word is written between single quotes, any other as it is. -/
def Word.written (w : Word) : Text := if w.quoted then w.text.literal else w.text

def Command.words (c : Command) : List Word := c.argv.map Word.literal

def Redirect.words (number : Text) (r : Redirect) : List Word :=
  [Word.plain (number ++ r.sign), Word.literal r.path]

namespace Pipeline

def stageWords : List Command → List Word
  | [] => []
  | [c] => c.words
  | c :: next :: rest => c.words ++ Word.plain [.char '|'] :: stageWords (next :: rest)

def redirectWords (stdout stderr : Option Redirect) : List Word :=
  stdout.elim [] (Redirect.words []) ++ stderr.elim [] (Redirect.words [.char '2'])

theorem join_append (s : Text) {a b : List Text} (ha : a ≠ []) (hb : b ≠ []) :
    Text.join s (a ++ b) = Text.join s a ++ s ++ Text.join s b := by
  induction a with
  | nil => exact absurd rfl ha
  | cons t a ih =>
    obtain ⟨u, b', rfl⟩ := List.exists_cons_of_ne_nil hb
    cases a with
    | nil => simp [Text.join]
    | cons v a =>
      rw [List.cons_append, List.cons_append, Text.join_cons_cons, Text.join_cons_cons,
        ← List.cons_append, ih (by simp)]
      simp

theorem words_ne_nil (c : Command) : c.words ≠ [] := by simp [Command.words, Command.argv]

theorem stageWords_ne_nil (c : Command) (rest : List Command) : stageWords (c :: rest) ≠ [] := by
  cases rest with
  | nil => exact words_ne_nil c
  | cons next rest => simp [stageWords]

theorem render_command (c : Command) :
    c.render = Text.join [.char ' '] (c.words.map Word.written) := by
  simp [Command.render, Command.words, Function.comp_def, Word.written, Word.literal]

theorem join_stages (c : Command) (rest : List Command) :
    Text.join [.char ' ', .char '|', .char ' '] ((c :: rest).map Command.render) =
      Text.join [.char ' '] ((stageWords (c :: rest)).map Word.written) := by
  induction rest generalizing c with
  | nil => exact render_command c
  | cons next rest ih =>
    have hc : c.words.map Word.written ≠ [] := by simpa using words_ne_nil c
    have hnext : (stageWords (next :: rest)).map Word.written ≠ [] := by
      simpa using stageWords_ne_nil next rest
    obtain ⟨t, ts, hts⟩ := List.exists_cons_of_ne_nil hnext
    have hpipe : (Word.plain [.char '|']).written = [.char '|'] := rfl
    rw [List.map_cons, List.map_cons, Text.join_cons_cons, ← List.map_cons, ih next, stageWords,
      List.map_append, List.map_cons, join_append _ hc (by simp), render_command, hpipe, hts,
      Text.join_cons_cons]
    simp

theorem join_redirect (number : Text) (r : Redirect) {words : List Word} (hw : words ≠ []) :
    Text.join [.char ' '] ((words ++ r.words number).map Word.written) =
      Text.join [.char ' '] (words.map Word.written) ++ r.render number := by
  have hne : words.map Word.written ≠ [] := by simpa using hw
  rw [List.map_append, join_append _ hne (by simp [Redirect.words])]
  simp [Redirect.words, Redirect.render, Word.written, Word.plain, Word.literal, Text.join]

theorem render_eq_join (p : Pipeline) (hp : p.stages ≠ []) :
    p.render = Text.join [.char ' ']
      ((stageWords p.stages ++ redirectWords p.stdout p.stderr).map Word.written) := by
  obtain ⟨c, rest, hs⟩ := List.exists_cons_of_ne_nil hp
  have hne := stageWords_ne_nil c rest
  rw [render, hs, join_stages, redirectWords]
  cases p.stdout with
  | none =>
    cases p.stderr with
    | none => simp
    | some e => exact (join_redirect [.char '2'] e hne).symm
  | some o =>
    cases p.stderr with
    | none => simpa using (join_redirect [] o hne).symm
    | some e =>
      have hboth : stageWords (c :: rest) ++ o.words [] ≠ [] := by simp [hne]
      have ho := join_redirect [] o hne
      have he := join_redirect [.char '2'] e hboth
      rw [ho, List.append_assoc, List.append_assoc] at he
      exact he.symm

/-! ### Scanning the written form -/

/-- Some chunk that is written like the word stands for it. -/
def Spelled (w : Word) : Prop := ∃ c : Chunk, c.written = w.written ∧ c.word? = some w

/-- Behind an opening mark a text is a body and, for each mark in it, an escape and a new
section. -/
theorem literal_pieces (t : Text) :
    ∃ (body : Text) (rest : List Piece), .char '\'' ∉ body ∧
      t.flatMap quoteChar ++ [.char '\''] = body ++ .char '\'' :: rest.flatMap Piece.written ∧
      t = body ++ rest.flatMap Piece.value := by
  induction t with
  | nil => exact ⟨[], [], by simp, rfl, rfl⟩
  | cons c t ih =>
    obtain ⟨body, rest, hbody, hwritten, hvalue⟩ := ih
    by_cases hc : c = '\''
    · refine ⟨[], .escape '\'' :: .single body hbody :: rest, by simp, ?_, ?_⟩
      · rw [List.flatMap_cons, List.append_assoc, hwritten]
        simp [quoteChar, hc, Piece.written]
      · simp [Piece.value, hc, ← hvalue]
    · refine ⟨c :: body, rest, by simp [hbody, Ne.symm hc], ?_, ?_⟩
      · rw [List.flatMap_cons, List.append_assoc, hwritten]
        simp [quoteChar, hc]
      · rw [List.cons_append, ← hvalue]

theorem spelled_literal {t : Text} (ht : t ≠ []) : Spelled (Word.literal t) := by
  obtain ⟨body, rest, hbody, hwritten, hvalue⟩ := literal_pieces t
  refine ⟨⟨.single body hbody, rest⟩, ?_, ?_⟩
  · simp [Chunk.written, Chunk.pieces, Word.written, Word.literal, Text.literal, hwritten,
      Piece.written]
  · have hv : Chunk.value ⟨.single body hbody, rest⟩ = t := by
      rw [hvalue]
      rfl
    simp [Chunk.word?, hv, ht, Word.literal, Chunk.marked, Chunk.pieces, Piece.marked]

theorem bare_pieces (t : Text) (hb : ∀ c ∈ t, c ∉ [.char ' ', .char '\'', .char '"', .char '\\']) :
    ∃ ps : List Piece, ps.flatMap Piece.written = t ∧ ps.flatMap Piece.value = t ∧
      ps.any Piece.marked = false := by
  induction t with
  | nil => exact ⟨[], rfl, rfl, rfl⟩
  | cons c t ih =>
    obtain ⟨ps, hw, hv, hm⟩ := ih fun e he => hb e (List.mem_cons_of_mem c he)
    refine ⟨.bare c (hb c List.mem_cons_self) :: ps, ?_, ?_, ?_⟩
    · simp [Piece.written, hw]
    · simp [Piece.value, hv]
    · simp [Piece.marked, hm]

theorem spelled_plain {t : Text} (ht : t ≠ [])
    (hb : ∀ c ∈ t, c ∉ [.char ' ', .char '\'', .char '"', .char '\\']) :
    Spelled (Word.plain t) := by
  obtain ⟨ps, hw, hv, hm⟩ := bare_pieces t hb
  cases ps with
  | nil => exact absurd hw.symm ht
  | cons p ps =>
    have hvalue : Chunk.value ⟨p, ps⟩ = t := hv
    have hmarked : Chunk.marked ⟨p, ps⟩ = false := hm
    refine ⟨⟨p, ps⟩, hw, ?_⟩
    simp [Chunk.word?, hvalue, hmarked, ht, Word.plain]

theorem row_of_spelled (words : List Word) (hs : ∀ w ∈ words, Spelled w) :
    ∃ r : Row, r.written = Text.join [.char ' '] (words.map Word.written) ∧
      r.chunks.filterMap Chunk.word? = words := by
  induction words with
  | nil => exact ⟨.nil, rfl, rfl⟩
  | cons w words ih =>
    obtain ⟨c, hc, hw⟩ := hs w List.mem_cons_self
    obtain ⟨r, hr, hwords⟩ := ih fun v hv => hs v (List.mem_cons_of_mem w hv)
    cases words with
    | nil => exact ⟨.last c, by simpa [Row.written] using hc, by simp [Row.chunks, hw]⟩
    | cons v words =>
      refine ⟨.cons c 0 r, ?_, ?_⟩
      · rw [List.map_cons, List.map_cons, Text.join_cons_cons, ← List.map_cons, ← hr, ← hc]
        simp [Row.written, Quoting.spaces]
      · simp [Row.chunks, hw, hwords]

theorem scan_join (words : List Word) (hs : ∀ w ∈ words, Spelled w) :
    Word.scan (Text.join [.char ' '] (words.map Word.written)) = .ok words := by
  obtain ⟨r, hr, hwords⟩ := row_of_spelled words hs
  have hscan := Quoting.scan_written ⟨0, r, false⟩
  simpa [Line.written, Line.words, Quoting.spaces, Quoting.leftover, hr, hwords] using hscan

theorem spelled_stageWords (stages : List Command)
    (ha : ∀ c ∈ stages, ∀ t ∈ c.argv, t ≠ []) : ∀ w ∈ stageWords stages, Spelled w := by
  have command (c : Command) (hc : ∀ t ∈ c.argv, t ≠ []) : ∀ w ∈ c.words, Spelled w := by
    intro w hw
    obtain ⟨t, ht, rfl⟩ := List.mem_map.mp hw
    exact spelled_literal (hc t ht)
  fun_induction stageWords stages with
  | case1 => simp
  | case2 c => exact command c (ha c (by simp))
  | case3 c next rest ih =>
    intro w hw
    obtain hw | hw := List.mem_append.mp hw
    · exact command c (ha c (by simp)) w hw
    · obtain rfl | hw := List.mem_cons.mp hw
      · exact spelled_plain (by simp) (by simp)
      · exact ih (fun d hd => ha d (List.mem_cons_of_mem c hd)) w hw

theorem spelled_redirect {number : Text} (hn : number ∈ [[], [.char '2']]) {r : Redirect}
    (hr : r.path ≠ []) : ∀ w ∈ r.words number, Spelled w := by
  intro w hw
  simp only [Redirect.words, List.mem_cons, List.not_mem_nil, or_false] at hw hn
  obtain rfl | rfl := hw
  · unfold Redirect.sign
    obtain rfl | rfl := hn <;> split <;> exact spelled_plain (by simp) (by simp)
  · exact spelled_literal hr

theorem scan_render (p : Pipeline) (hp : p.Proper) :
    Word.scan p.render = .ok (stageWords p.stages ++ redirectWords p.stdout p.stderr) := by
  rw [render_eq_join p hp.stages_ne_nil]
  refine scan_join _ ?_
  intro w hw
  obtain hw | hw := List.mem_append.mp hw
  · exact spelled_stageWords p.stages hp.argv_ne_nil w hw
  obtain hw | hw := List.mem_append.mp hw
  · cases ho : p.stdout with
    | none => simp [ho] at hw
    | some r =>
      rw [ho] at hw
      exact spelled_redirect (by simp) (hp.stdout_ne_nil r ho) w hw
  · cases he : p.stderr with
    | none => simp [he] at hw
    | some r =>
      rw [he] at hw
      exact spelled_redirect (by simp) (hp.stderr_ne_nil r he) w hw

/-! ### Grouping the words -/

theorem run_literals (ts : List Text) (rest : List Word) (g : Grouping) (hp : g.pending = none) :
    g.run (ts.map Word.literal ++ rest) =
      { g with current := ts.reverse ++ g.current }.run rest := by
  induction ts generalizing g with
  | nil => rfl
  | cons t ts ih =>
    have hstep : g.step (Word.literal t) = .ok { g with current := t :: g.current } := by
      simp [Grouping.step, hp, Word.literal, operator?_quoted]
    rw [List.map_cons, List.cons_append, run_cons, hstep]
    simp only
    rw [ih]
    · simp
    · exact hp

theorem run_redirect (op : RedirectOperator) (path : Text) (rest : List Word) (g : Grouping)
    (hp : g.pending = none) :
    g.run (Word.plain op.spelling :: Word.literal path :: rest) =
      (g.redirect op path).run rest := by
  have hop : (Word.plain op.spelling).operator? = some (.redirect op) :=
    (operator?_eq_redirect_iff _ op).mpr ⟨rfl, rfl⟩
  have hstep : g.step (Word.plain op.spelling) = .ok { g with pending := some op } := by
    simp [Grouping.step, hp, hop]
  have htarget : { g with pending := some op }.step (Word.literal path) =
      .ok (g.redirect op path) := by
    simp only [Grouping.step, Word.literal]
    rw [← hp]
  rw [run_cons, hstep]
  simp only
  rw [run_cons, htarget]

theorem run_stdout (r : Redirect) (rest : List Word) (g : Grouping) (hp : g.pending = none) :
    g.run (r.words [] ++ rest) = { g with stdout := some r }.run rest := by
  obtain ⟨path, append⟩ := r
  cases append with
  | false => exact run_redirect .out path rest g hp
  | true => exact run_redirect .outAppend path rest g hp

theorem run_stderr (r : Redirect) (rest : List Word) (g : Grouping) (hp : g.pending = none) :
    g.run (r.words [.char '2'] ++ rest) = { g with stderr := some r }.run rest := by
  obtain ⟨path, append⟩ := r
  cases append with
  | false => exact run_redirect .err path rest g hp
  | true => exact run_redirect .errAppend path rest g hp

theorem run_redirectWords (stdout stderr : Option Redirect) (g : Grouping)
    (hp : g.pending = none) :
    g.run (redirectWords stdout stderr) =
      { g with stdout := stdout.or g.stdout, stderr := stderr.or g.stderr }.finish := by
  cases stdout with
  | none =>
    cases stderr with
    | none => rfl
    | some e =>
      have he := run_stderr e [] g hp
      rw [List.append_nil] at he
      exact he
  | some o =>
    have ho := run_stdout o (redirectWords none stderr) g hp
    cases stderr with
    | none => exact ho
    | some e =>
      have he := run_stderr e [] { g with stdout := some o } hp
      rw [List.append_nil] at he
      exact ho.trans he

theorem run_stageWords (c : Command) (rest : List Command) (stdout stderr : Option Redirect)
    (g : Grouping) (hp : g.pending = none) (hc : g.current = []) :
    g.run (stageWords (c :: rest) ++ redirectWords stdout stderr) =
      .ok ⟨g.stages.reverse ++ c :: rest, stdout.or g.stdout, stderr.or g.stderr⟩ := by
  induction rest generalizing c g with
  | nil =>
    rw [stageWords, Command.words, run_literals _ _ _ hp, run_redirectWords]
    · simp [Grouping.finish, Grouping.close, hp, hc, Command.argv, command]
    · exact hp
  | cons next rest ih =>
    have hop : (Word.plain [.char '|']).operator? = some .pipe := rfl
    have hpipe : { g with current := c.argv.reverse }.step (Word.plain [.char '|']) =
        { g with current := c.argv.reverse }.close := by
      simp [Grouping.step, hp, hop]
    have hclose : { g with current := c.argv.reverse }.close =
        .ok { g with stages := c :: g.stages, current := [] } := by
      simp [Grouping.close, Command.argv, command]
    rw [stageWords, List.append_assoc, Command.words, run_literals _ _ _ hp, hc, List.append_nil,
      List.cons_append, run_cons, hpipe, hclose]
    simp only
    rw [ih]
    · simp
    · exact hp
    · rfl

theorem ofLine_render (p : Pipeline) (hp : p.Proper) : ofLine p.render = .ok p := by
  obtain ⟨c, rest, hs⟩ := List.exists_cons_of_ne_nil hp.stages_ne_nil
  have hrun := run_stageWords c rest p.stdout p.stderr {} rfl rfl
  simp only [ofLine]
  rw [scan_render p hp, hs]
  simp only
  rw [ofWords_eq_run, hrun]
  simp [← hs]

/-! ### Every pipeline that is read -/

/-- No text that has been grouped is empty. -/
structure Grouping.Proper (g : Grouping) : Prop where
  stages : ∀ c ∈ g.stages, ∀ t ∈ c.argv, t ≠ []
  current : ∀ t ∈ g.current, t ≠ []
  stdout : ∀ r ∈ g.stdout, r.path ≠ []
  stderr : ∀ r ∈ g.stderr, r.path ≠ []

theorem argv_of_command {ts : List Text} {c : Command} (h : command ts = .ok c) : c.argv = ts := by
  cases ts with
  | nil => cases h
  | cons name args =>
    cases h
    rfl

theorem close_proper {g g' : Grouping} (hg : g.Proper) (h : g.close = .ok g') :
    g'.Proper ∧ g'.stages ≠ [] := by
  unfold Grouping.close at h
  split at h
  · cases h
  · next c hc =>
    cases h
    have hargv := argv_of_command hc
    refine ⟨⟨?_, by simp, hg.stdout, hg.stderr⟩, by simp⟩
    intro d hd
    obtain rfl | hd := List.mem_cons.mp hd
    · rw [hargv]
      intro t ht
      exact hg.current t (List.mem_reverse.mp ht)
    · exact hg.stages d hd

theorem step_proper {g g' : Grouping} {w : Word} (hw : w.text ≠ []) (hg : g.Proper)
    (h : g.step w = .ok g') : g'.Proper := by
  unfold Grouping.step at h
  split at h
  · cases h
    unfold Grouping.redirect
    split
    · exact ⟨hg.stages, hg.current, by simpa using hw, hg.stderr⟩
    · exact ⟨hg.stages, hg.current, hg.stdout, by simpa using hw⟩
  · split at h
    · exact (close_proper hg h).1
    · cases h
      exact ⟨hg.stages, hg.current, hg.stdout, hg.stderr⟩
    · cases h
      refine ⟨hg.stages, ?_, hg.stdout, hg.stderr⟩
      intro t ht
      obtain rfl | ht := List.mem_cons.mp ht
      · exact hw
      · exact hg.current t ht

theorem finish_proper {g : Grouping} {p : Pipeline} (hg : g.Proper) (h : g.finish = .ok p) :
    p.Proper := by
  unfold Grouping.finish at h
  split at h
  · cases h
  · split at h
    · cases h
    · next g' hclose =>
      cases h
      obtain ⟨hg', hne⟩ := close_proper hg hclose
      refine ⟨by simpa using hne, ?_, hg'.stdout, hg'.stderr⟩
      intro c hc
      exact hg'.stages c (List.mem_reverse.mp hc)

theorem run_proper {words : List Word} {g : Grouping} {p : Pipeline}
    (hw : ∀ w ∈ words, w.text ≠ []) (hg : g.Proper) (h : g.run words = .ok p) : p.Proper := by
  induction words generalizing g with
  | nil => exact finish_proper hg h
  | cons w words ih =>
    rw [run_cons] at h
    split at h
    · cases h
    · next g' hstep =>
      exact ih (fun v hv => hw v (List.mem_cons_of_mem w hv))
        (step_proper (hw w List.mem_cons_self) hg hstep) h

theorem text_ne_nil_of_scan {t : Text} {words : List Word} (h : Word.scan t = .ok words) :
    ∀ w ∈ words, w.text ≠ [] := by
  obtain ⟨l, -, rfl⟩ := Quoting.line_of_scan h
  intro w hw
  obtain ⟨c, -, hc⟩ := List.mem_filterMap.mp hw
  unfold Chunk.word? at hc
  split at hc
  · cases hc
  · next hv =>
    cases hc
    exact hv

theorem proper_of_ofLine {t : Text} {p : Pipeline} (h : ofLine t = .ok p) : p.Proper := by
  unfold ofLine at h
  split at h
  · cases h
  · next words hscan =>
    have hempty : Grouping.Proper {} := ⟨by simp, by simp, by simp, by simp⟩
    exact run_proper (text_ne_nil_of_scan hscan) hempty h

/-- A proper pipeline is read back from its written form, and the pipelines that lines write are the
proper ones. -/
theorem ofLine_render_iff (p : Pipeline) :
    (p.Proper → ofLine p.render = .ok p) ∧ ((∃ line, ofLine line = .ok p) ↔ p.Proper) := by
  refine ⟨ofLine_render p, ?_, ?_⟩
  · rintro ⟨line, h⟩
    exact proper_of_ofLine h
  · intro hp
    exact ⟨p.render, ofLine_render p hp⟩

theorem ofLine_render_operators :
    let p : Pipeline := ⟨[⟨[.char '|'], [[.char '\''], [.char '\\', .char '"', .char ' ']]⟩,
      ⟨[.char '\n', .char '\x00'], []⟩],
      some ⟨[.char '2', .char '>'], true⟩, some ⟨[.char '>'], false⟩⟩
    p.Proper ∧ ofLine p.render = .ok p :=
  have hp : Proper ⟨[⟨[.char '|'], [[.char '\''], [.char '\\', .char '"', .char ' ']]⟩,
      ⟨[.char '\n', .char '\x00'], []⟩],
      some ⟨[.char '2', .char '>'], true⟩, some ⟨[.char '>'], false⟩⟩ :=
    ⟨by simp, by simp [Command.argv], by simp, by simp⟩
  ⟨hp, (ofLine_render_iff _).1 hp⟩

end Pipeline
end PipelineShell
