import PipelineShell.Line.Layout

/-!
# What a layout tells apart

`format_pipeline` is injective on pipelines whose words hold no space and whose texts hold no line
break: the lines and the words of each can be cut apart again.
-/

namespace PipelineShell

/-- The words of the pipeline hold neither spaces nor line breaks, and the paths of its redirections
hold no line breaks. -/
structure Pipeline.Plain (p : Pipeline) : Prop where
  words : ∀ c ∈ p.stages, ∀ word ∈ c.argv, .char ' ' ∉ word ∧ .char '\n' ∉ word
  stdout : ∀ r ∈ p.stdout, .char '\n' ∉ r.path
  stderr : ∀ r ∈ p.stderr, .char '\n' ∉ r.path

theorem Command.argv_injective : Function.Injective Command.argv := by
  rintro ⟨name, args⟩ ⟨name', args'⟩ h
  obtain ⟨rfl, rfl⟩ := List.cons.inj h
  rfl

theorem Redirect.newline_not_mem_sign (r : Redirect) : .char '\n' ∉ r.sign := by
  unfold sign
  split <;> decide

namespace Pipeline

variable {p q : Pipeline} {c : Command} {r : Redirect} {label : Text}

/-! ### One line -/

theorem newline_not_mem_stageLine (h : ∀ word ∈ c.argv, .char '\n' ∉ word) :
    .char '\n' ∉ stageLine c := by
  intro hc
  rcases List.mem_append.1 hc with hlabel | hjoin
  · revert hlabel
    decide
  · obtain hspace | ⟨word, hword, hin⟩ := Text.mem_join hjoin
    · revert hspace
      decide
    · exact h word hword hin

theorem newline_not_mem_redirectLine (hlabel : .char '\n' ∉ label) (h : .char '\n' ∉ r.path) :
    .char '\n' ∉ redirectLine label r := by
  simp [redirectLine, hlabel, h, r.newline_not_mem_sign]

/-- The words that stand behind the label of a line. -/
def lineWords (line : Text) : List Text := Text.splitOn ' ' (line.drop "CMD  ".runes.length)

theorem lineWords_stageLine (h : ∀ word ∈ c.argv, .char ' ' ∉ word) :
    lineWords (stageLine c) = c.argv := by
  have hdrop : (stageLine c).drop "CMD  ".runes.length = Text.join [.char ' '] c.argv :=
    List.drop_left
  unfold lineWords
  rw [hdrop]
  exact Text.splitOn_join (List.cons_ne_nil c.name c.args) h

/-- One sign is followed by a space where the other goes on, so the path begins where it seems
to. -/
theorem redirectLine_injective (label : Text) : Function.Injective (redirectLine label) := by
  rintro ⟨path, append⟩ ⟨path', append'⟩ h
  cases append <;> cases append' <;> simp_all [redirectLine, Redirect.sign]

theorem head?_stageLine (c : Command) : (stageLine c).head? = some (.char 'C') := rfl

theorem head?_redirectLine {first : Rune} (h : label.head? = some first) (r : Redirect) :
    (redirectLine label r).head? = some first := by
  cases label with
  | nil => cases h
  | cons ch label => exact h

theorem redirect_of_lines {a b : Option Redirect}
    (h : (a.map (redirectLine label)).toList = (b.map (redirectLine label)).toList) : a = b := by
  cases a with
  | none =>
    cases b with
    | none => rfl
    | some r => cases h
  | some r =>
    cases b with
    | none => cases h
    | some r' => rw [redirectLine_injective label (List.cons.inj h).1]

/-! ### All lines -/

/-- The lines of a layout that begin with this letter. -/
def linesWith (letter : Rune) (p : Pipeline) : List Text :=
  p.layoutLines.filter (·.head? = some letter)

theorem linesWith_eq (letter : Rune) (p : Pipeline) :
    p.linesWith letter =
      (if letter = 'C' then p.stages.map stageLine else []) ++
        (if letter = 'O' then (p.stdout.map (redirectLine "OUT".runes)).toList else []) ++
          if letter = 'E' then (p.stderr.map (redirectLine "ERR".runes)).toList else [] := by
  have hpart (lines : List Text) (first : Rune) (h : ∀ line ∈ lines, line.head? = some first) :
      lines.filter (·.head? = some letter) = if letter = first then lines else [] := by
    split
    · next heq => exact List.filter_eq_self.2 fun line hline => by simp [h line hline, heq]
    · next hne =>
      exact List.filter_eq_nil_iff.2 fun line hline => by simp [h line hline, Ne.symm hne]
  simp only [linesWith, layoutLines, List.filter_append]
  have hstages : ∀ line ∈ p.stages.map stageLine, line.head? = some (.char 'C') :=
    List.forall_mem_map.2 fun c _ => head?_stageLine c
  have hredirect {label : Text} {first : Rune} (hlabel : label.head? = some first)
      (target : Option Redirect) :
      ∀ line ∈ (target.map (redirectLine label)).toList, line.head? = some first := by
    cases target with
    | none => exact List.forall_mem_nil _
    | some r => simpa using head?_redirectLine hlabel r
  rw [hpart _ 'C' hstages, hpart _ 'O' (hredirect rfl p.stdout),
    hpart _ 'E' (hredirect rfl p.stderr)]

theorem ne_empty_of_mem_layoutLines {line : Text} (h : line ∈ p.layoutLines) :
    line ≠ "<empty>".runes := by
  rintro rfl
  have hmem : "<empty>".runes ∈ p.linesWith '<' := List.mem_filter.2 ⟨h, rfl⟩
  rw [linesWith_eq] at hmem
  cases hmem

theorem Plain.newline_not_mem (h : p.Plain) {line : Text} (hline : line ∈ p.layoutLines) :
    .char '\n' ∉ line := by
  simp only [layoutLines, List.mem_append, List.mem_map, Option.mem_toList, Option.map_eq_some_iff,
    or_assoc] at hline
  rcases hline with ⟨c, hc, rfl⟩ | ⟨r, hr, rfl⟩ | ⟨r, hr, rfl⟩
  · exact newline_not_mem_stageLine fun word hword => (h.words c hc word hword).2
  · exact newline_not_mem_redirectLine (by decide) (h.stdout r hr)
  · exact newline_not_mem_redirectLine (by decide) (h.stderr r hr)

theorem Plain.lines_of_layout (h : p.Plain) :
    (Text.splitOn (.char '\n') p.layout).filter (· ≠ "<empty>".runes) = p.layoutLines := by
  have hkept : p.layoutLines.filter (· ≠ "<empty>".runes) = p.layoutLines :=
    List.filter_eq_self.2 fun _ hline => decide_eq_true (ne_empty_of_mem_layoutLines hline)
  by_cases hnone : p.layoutLines = []
  · rw [layout, hnone]
    decide
  · have hlayout : p.layout = Text.join [.char '\n'] p.layoutLines := by
      unfold layout
      split
      · next heq => exact absurd heq hnone
      · rfl
    rw [hlayout, Text.splitOn_join hnone fun line => h.newline_not_mem, hkept]

theorem Plain.words_of_lines (h : p.Plain) :
    (p.stages.map stageLine).map lineWords = p.stages.map Command.argv := by
  rw [List.map_map]
  exact List.map_congr_left fun c hc =>
    lineWords_stageLine fun word hword => (h.words c hc word hword).1

/-- A layout shows all there is to a pipeline: each stage with its words, and for each output
whether it is redirected, where to, and whether the old content is kept. -/
theorem eq_of_layout_eq (hp : p.Plain) (hq : q.Plain) (h : p.layout = q.layout) : p = q := by
  have hlines : p.layoutLines = q.layoutLines := by
    rw [← hp.lines_of_layout, h, hq.lines_of_layout]
  have hwith (letter : Rune) : p.linesWith letter = q.linesWith letter :=
    congrArg (List.filter _) hlines
  have hstages : p.stages = q.stages := by
    have hlabelled : p.stages.map stageLine = q.stages.map stageLine := by
      simpa [linesWith_eq] using hwith 'C'
    have hargv : p.stages.map Command.argv = q.stages.map Command.argv := by
      rw [← hp.words_of_lines, ← hq.words_of_lines, hlabelled]
    exact (List.map_inj_right fun {_ _} heq => Command.argv_injective heq).1 hargv
  have hstdout : p.stdout = q.stdout := redirect_of_lines (by simpa [linesWith_eq] using hwith 'O')
  have hstderr : p.stderr = q.stderr := redirect_of_lines (by simpa [linesWith_eq] using hwith 'E')
  calc
    p = ⟨p.stages, p.stdout, p.stderr⟩ := rfl
    _ = ⟨q.stages, q.stdout, q.stderr⟩ := by rw [hstages, hstdout, hstderr]

/-- Words that are empty, and paths that begin like operators: the pipeline that they form has the
layout of the one that was meant. -/
theorem eq_of_layout_eq_hollow :
    let words : List Word := [⟨[], false⟩, ⟨[.char 'a'], false⟩, ⟨[], true⟩, ⟨[.char '|'], false⟩,
      ⟨[.char '>'], true⟩, ⟨[.char '>'], false⟩, ⟨[.char '>', .char ' ', .char 'b'], false⟩,
      ⟨[.char '2', .char '>', .char '>'], false⟩, ⟨[.char ' ', .char '>'], true⟩]
    let p : Pipeline := ⟨[⟨[], [[.char 'a'], []]⟩, ⟨[.char '>'], []⟩],
      some ⟨[.char '>', .char ' ', .char 'b'], false⟩, some ⟨[.char ' ', .char '>'], true⟩⟩
    ∃ q, ofWords words = .ok q ∧ p.Plain ∧ q.Plain ∧ p.layout = q.layout ∧ p = q := by
  intro words p
  have hp : p.Plain := ⟨by decide, by simp [p], by simp [p]⟩
  have hwords : ofWords words = .ok p := rfl
  exact ⟨p, hwords, hp, hp, rfl, eq_of_layout_eq hp hp rfl⟩

end Pipeline
end PipelineShell
