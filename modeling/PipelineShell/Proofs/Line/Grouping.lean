import PipelineShell.Line.Pipeline

/-!
# `parse` against its reference

`parse` works in one pass. The reference first takes out the redirections, then cuts at the pipes,
and then looks for errors.
-/

namespace PipelineShell

/-! ### Operators -/

theorem ofText?_eq_some_iff (t : Text) (op : RedirectOperator) :
    RedirectOperator.ofText? t = some op ↔ t = op.spelling := by
  constructor
  · intro h
    exact (RedirectOperator.spelling_of_ofText? h).symm
  · rintro rfl
    exact RedirectOperator.ofText?_spelling op

theorem operator?_quoted (t : Text) : Word.operator? ⟨t, true⟩ = none := rfl

theorem operator?_eq_redirect_iff (w : Word) (op : RedirectOperator) :
    w.operator? = some (.redirect op) ↔ w.quoted = false ∧ w.text = op.spelling := by
  unfold Word.operator?
  cases hq : w.quoted with
  | true => simp
  | false =>
    by_cases ht : w.text = [.char '|']
    · have hne : [.char '|'] ≠ op.spelling := by cases op <;> decide
      simp [ht, hne]
    · simp [ht, ofText?_eq_some_iff]

namespace Pipeline

/-! ### The reference -/

/-- What a word of a row is there for; a redirection has two words. -/
inductive Part
  | word (text : Text)
  | pipe
  | redirect (op : RedirectOperator) (target : Text)
  deriving DecidableEq, Repr

/-- The parts of a row of words, and the operator at its end that finds no target. A redirection
operator takes the next word as its target, whatever it is. -/
def parts : List Word → List Part × Option RedirectOperator
  | [] => ([], none)
  | w :: rest =>
    match w.operator? with
    | none => (.word w.text :: (parts rest).1, (parts rest).2)
    | some .pipe => (.pipe :: (parts rest).1, (parts rest).2)
    | some (.redirect op) =>
      match rest with
      | [] => ([], some op)
      | target :: rest => (.redirect op target.text :: (parts rest).1, (parts rest).2)

/-- Texts put in front of the first segment. -/
def prepend (front : List Text) : List (List Text) → List (List Text)
  | [] => [front]
  | segment :: rest => (front ++ segment) :: rest

/-- The texts between the pipes: always one segment more than there are pipes. -/
def segments : List Part → List (List Text)
  | [] => [[]]
  | .word t :: ps => prepend [t] (segments ps)
  | .pipe :: ps => [] :: segments ps
  | .redirect _ _ :: ps => segments ps

/-- The command of a segment: its first text is the name, the others are the arguments. -/
def commandOf (segment : List Text) : Command := ⟨segment.headD [], segment.tail⟩

def Part.redirect? (output : Output) : Part → Option Redirect
  | .redirect op target => if op.output = output then some ⟨target, op.appends⟩ else none
  | .word _ | .pipe => none

def lastRedirect (output : Output) (ps : List Part) : Option Redirect :=
  (ps.filterMap (Part.redirect? output)).getLast?

/-- The pipeline of a row of words. An empty segment before a pipe is the first mistake looked for,
then an operator without a target, then an empty last segment. -/
def reference (words : List Word) : Except ParseError Pipeline :=
  let (ps, dangling) := parts words
  if [] ∈ (segments ps).dropLast then .error .emptyCommand
  else
    match dangling with
    | some op => .error (.missingTarget op)
    | none =>
      if (segments ps).getLast? = some [] then .error .emptyCommand
      else
        .ok ⟨(segments ps).map commandOf, lastRedirect .stdout ps, lastRedirect .stderr ps⟩

/-! ### Segments and last redirections -/

theorem segments_ne_nil (ps : List Part) : segments ps ≠ [] := by
  cases ps with
  | nil => simp [segments]
  | cons p ps =>
    cases p with
    | word t => simp only [segments]; cases segments ps <;> simp [prepend]
    | pipe => simp [segments]
    | redirect op target => exact segments_ne_nil ps

theorem prepend_nil {segs : List (List Text)} (h : segs ≠ []) : prepend [] segs = segs := by
  cases segs with
  | nil => exact absurd rfl h
  | cons s ss => rfl

theorem prepend_empty (front : List Text) (segs : List (List Text)) :
    prepend front ([] :: segs) = front :: segs := by
  simp [prepend]

theorem prepend_prepend (a b : List Text) (segs : List (List Text)) :
    prepend a (prepend b segs) = prepend (a ++ b) segs := by
  cases segs with
  | nil => rfl
  | cons s ss => simp [prepend]

theorem lastRedirect_cons (output : Output) (p : Part) (ps : List Part) :
    lastRedirect output (p :: ps) = (lastRedirect output ps).or (p.redirect? output) := by
  unfold lastRedirect
  cases hp : p.redirect? output with
  | none => simp [hp]
  | some r =>
    rw [List.filterMap_cons_some hp, List.getLast?_cons]
    cases (ps.filterMap (Part.redirect? output)).getLast? <;> rfl

/-! ### The pass over the words -/

/-- What comes of a row of words behind those already grouped. -/
def Grouping.run (g : Grouping) (words : List Word) : Except ParseError Pipeline :=
  match words.foldlM Grouping.step g with
  | .error e => .error e
  | .ok g => g.finish

theorem run_cons (g : Grouping) (w : Word) (rest : List Word) :
    g.run (w :: rest) =
      match g.step w with
      | .error e => .error e
      | .ok g => g.run rest := by
  unfold Grouping.run
  rw [List.foldlM_cons]
  cases g.step w <;> rfl

/-- What the reference says of parts that come behind those already grouped. -/
def Grouping.outcome (g : Grouping) (ps : List Part) (dangling : Option RedirectOperator) :
    Except ParseError Pipeline :=
  let segs := prepend g.current.reverse (segments ps)
  if [] ∈ segs.dropLast then .error .emptyCommand
  else
    match dangling with
    | some op => .error (.missingTarget op)
    | none =>
      if segs.getLast? = some [] then .error .emptyCommand
      else
        .ok ⟨g.stages.reverse ++ segs.map commandOf, (lastRedirect .stdout ps).or g.stdout,
          (lastRedirect .stderr ps).or g.stderr⟩

theorem outcome_word (g : Grouping) (t : Text) (ps : List Part) (d : Option RedirectOperator) :
    { g with current := t :: g.current }.outcome ps d = g.outcome (.word t :: ps) d := by
  simp only [Grouping.outcome, segments, List.reverse_cons, prepend_prepend,
    lastRedirect_cons, Part.redirect?, Option.or_none]

theorem outcome_pipe_empty (g : Grouping) (ps : List Part) (d : Option RedirectOperator)
    (hc : g.current = []) : g.outcome (.pipe :: ps) d = .error .emptyCommand := by
  have hmem : [] ∈ ([] :: segments ps).dropLast := by
    rw [List.dropLast_cons_of_ne_nil (segments_ne_nil ps)]
    exact List.mem_cons_self
  simp only [Grouping.outcome, hc, List.reverse_nil, segments, prepend_empty]
  rw [if_pos hmem]

theorem outcome_pipe (g : Grouping) (ps : List Part) (d : Option RedirectOperator)
    (hc : g.current ≠ []) :
    { g with stages := commandOf g.current.reverse :: g.stages, current := [] }.outcome ps d =
      g.outcome (.pipe :: ps) d := by
  have hne := segments_ne_nil ps
  have hfront : g.current.reverse ≠ [] := by simpa using hc
  have hlast : (g.current.reverse :: segments ps).getLast? = (segments ps).getLast? := by
    rw [List.getLast?_cons, List.getLast?_eq_some_getLast hne, Option.getD_some]
  simp only [Grouping.outcome, segments, prepend_empty, List.reverse_nil, prepend_nil hne,
    List.dropLast_cons_of_ne_nil hne, List.mem_cons, hfront.symm, false_or, hlast,
    lastRedirect_cons, Part.redirect?, Option.or_none, List.reverse_cons, List.map_cons,
    List.append_assoc, List.cons_append, List.nil_append]

theorem outcome_redirect (g : Grouping) (op : RedirectOperator) (target : Text) (ps : List Part)
    (d : Option RedirectOperator) :
    (g.redirect op target).outcome ps d = g.outcome (.redirect op target :: ps) d := by
  cases ho : op.output with
  | stdout =>
    simp only [Grouping.redirect, Grouping.outcome, segments, lastRedirect_cons, Part.redirect?, ho,
      Option.or_assoc, Option.some_or, ↓reduceIte, reduceCtorEq, Option.or_none]
  | stderr =>
    simp only [Grouping.redirect, Grouping.outcome, segments, lastRedirect_cons, Part.redirect?, ho,
      Option.or_assoc, Option.some_or, ↓reduceIte, reduceCtorEq, Option.or_none]

theorem commandOf_eq {segment : List Text} (h : segment ≠ []) :
    command segment = .ok (commandOf segment) := by
  cases segment with
  | nil => exact absurd rfl h
  | cons name args => rfl

theorem close_eq (g : Grouping) (hc : g.current ≠ []) :
    g.close =
      .ok { g with stages := commandOf g.current.reverse :: g.stages, current := [] } := by
  have hne : g.current.reverse ≠ [] := by simpa using hc
  rw [Grouping.close, commandOf_eq hne]

theorem close_empty (g : Grouping) (hc : g.current = []) : g.close = .error .emptyCommand := by
  rw [Grouping.close, hc]
  rfl

theorem finish_eq_outcome (g : Grouping) (hp : g.pending = none) :
    g.finish = g.outcome [] none := by
  unfold Grouping.finish
  rw [hp]
  by_cases hc : g.current = []
  · simp [close_empty g hc, Grouping.outcome, segments, prepend, hc]
  · simp [close_eq g hc, Grouping.outcome, segments, prepend, hc, lastRedirect]

theorem finish_pending (g : Grouping) (op : RedirectOperator) :
    { g with pending := some op }.finish = g.outcome [] (some op) := by
  simp [Grouping.finish, Grouping.outcome, segments, prepend]

/-- The pass agrees with the reference from every state in which no operator waits. The induction
follows the reference, which takes a redirection's two words at once. -/
theorem run_eq_outcome (words : List Word) (g : Grouping) (hp : g.pending = none) :
    g.run words = g.outcome (parts words).1 (parts words).2 := by
  fun_induction parts words generalizing g with
  | case1 => exact finish_eq_outcome g hp
  | case2 w rest hw ih =>
    have hstep : g.step w = .ok { g with current := w.text :: g.current } := by
      simp [Grouping.step, hp, hw]
    rw [run_cons, hstep, ← outcome_word]
    exact ih _ hp
  | case3 w rest hw ih =>
    have hstep : g.step w = g.close := by simp [Grouping.step, hp, hw]
    rw [run_cons, hstep]
    by_cases hc : g.current = []
    · rw [close_empty g hc, outcome_pipe_empty g _ _ hc]
    · rw [close_eq g hc, ← outcome_pipe g _ _ hc]
      exact ih _ hp
  | case4 w op hw =>
    have hstep : g.step w = .ok { g with pending := some op } := by
      simp [Grouping.step, hp, hw]
    rw [run_cons, hstep]
    exact finish_pending g op
  | case5 w op hw target rest ih =>
    have hstep : g.step w = .ok { g with pending := some op } := by
      simp [Grouping.step, hp, hw]
    have htarget :
        { g with pending := some op }.step target = .ok (g.redirect op target.text) := by
      simp only [Grouping.step]
      rw [← hp]
    have hp' : (g.redirect op target.text).pending = none := by
      unfold Grouping.redirect
      split <;> exact hp
    rw [run_cons, hstep, ← outcome_redirect]
    simp only
    rw [run_cons, htarget]
    exact ih _ hp'

theorem ofWords_eq_run (words : List Word) : ofWords words = Grouping.run {} words := rfl

theorem ofWords_eq_reference (words : List Word) : ofWords words = reference words := by
  rw [ofWords_eq_run, run_eq_outcome words {} rfl]
  simp only [Grouping.outcome, reference, List.reverse_nil, prepend_nil (segments_ne_nil _),
    List.nil_append, Option.or_none]

theorem parts_dangling (words : List Word) (op : RedirectOperator)
    (h : (parts words).2 = some op) :
    ∃ w, words.getLast? = some w ∧ w.operator? = some (.redirect op) := by
  fun_induction parts words with
  | case1 => simp at h
  | case2 w rest hw ih =>
    obtain ⟨v, hv, hop⟩ := ih h
    exact ⟨v, by rw [List.getLast?_cons, hv, Option.getD_some], hop⟩
  | case3 w rest hw ih =>
    obtain ⟨v, hv, hop⟩ := ih h
    exact ⟨v, by rw [List.getLast?_cons, hv, Option.getD_some], hop⟩
  | case4 w other hw =>
    simp only [Option.some.injEq] at h
    exact ⟨w, rfl, by rw [hw, h]⟩
  | case5 w other hw target rest ih =>
    obtain ⟨v, hv, hop⟩ := ih h
    exact ⟨v, by rw [List.getLast?_cons, List.getLast?_cons, hv, Option.getD_some,
      Option.getD_some], hop⟩

theorem dangling_of_missingTarget (words : List Word) (op : RedirectOperator)
    (h : reference words = .error (.missingTarget op)) : (parts words).2 = some op := by
  simp only [reference] at h
  split at h
  · cases h
  · cases hd : (parts words).2 with
    | some other =>
      simp only [hd, Except.error.injEq, ParseError.missingTarget.injEq] at h
      rw [h]
    | none =>
      simp only [hd] at h
      split at h
      · cases h
      · cases h

/-- Grouping in one pass is the reference, and an operator without a target, which is the last word,
is named in the message as it is written. -/
theorem ofWords_reference (words : List Word) :
    ofWords words = reference words ∧
      ∀ op, ofWords words = .error (.missingTarget op) →
        ∃ w, words.getLast? = some w ∧ w.quoted = false ∧
          (ParseError.missingTarget op).message =
            "missing target after '".runes ++ w.text ++ [.char '\''] := by
  refine ⟨ofWords_eq_reference words, ?_⟩
  intro op h
  rw [ofWords_eq_reference] at h
  obtain ⟨w, hlast, hop⟩ := parts_dangling words op (dangling_of_missingTarget words op h)
  obtain ⟨hquoted, htext⟩ := (operator?_eq_redirect_iff w op).mp hop
  exact ⟨w, hlast, hquoted, by rw [htext]; rfl⟩

/-- A redirection takes a pipe and an operator as targets; the operator after them has none. -/
theorem ofWords_reference_dangling :
    ∃ w, (["a", ">", "|", "2>>", ">", "1>"].map (Word.plain ·.runes)).getLast? = some w ∧
      w.quoted = false ∧
      (ParseError.missingTarget .outNumbered).message =
        "missing target after '".runes ++ w.text ++ [.char '\''] :=
  (ofWords_reference _).2 .outNumbered (by rfl)

end Pipeline
end PipelineShell
