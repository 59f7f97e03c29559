import Mathlib.Data.List.Forall2
import Mathlib.Logic.ExistsUnique
import PipelineShell.Completion.LineEditor
import PipelineShell.Proofs.Completion.Answer

/-!
# What a line editor is offered

`ReadlineCompleter` never offers a text that the typed one is not a prefix of. Requests for a state
other than 0 change nothing.
-/

namespace PipelineShell

/-- A question of the editor for one candidate of a text, with the line typed so far. -/
structure Question where
  text : Text
  number : Int
  buffer : Text
  deriving DecidableEq, Repr

/-- How a question for candidate zero ends. -/
inductive Reaction
  | replaced
  | unmatched
  | rung
  | listed
  deriving DecidableEq, Repr

namespace Completer

/-- The offers for a row of questions, and the completer behind them. -/
def interview (prompt : Text) (c : Completer) : List Question → List Offer × Completer
  | [] => ([], c)
  | q :: rest =>
    let (offer, c) := (⟨prompt, q.buffer⟩ : LineEditor).ask c q.text q.number
    let (offers, c) := c.interview prompt rest
    (offer :: offers, c)

/-- A text that completes another: it goes on behind it, as the only candidate and a space or as
what several candidates share. -/
def Completes (words : List Text) (text v : Text) : Prop :=
  text <+: v ∧ text ≠ v ∧
    ((∃ w, candidates words text = [w] ∧ v = w ++ [.char ' ']) ∨
      (2 ≤ (candidates words text).length ∧ v = Text.sharedByAll (candidates words text)))

/-- What is offered and written for a reaction. -/
def Shows (words : List Text) (prompt : Text) (q : Question) (offer : Offer) : Reaction → Prop
  | .replaced => offer.value.isSome = true ∧ offer.output = []
  | .unmatched => candidates words q.text = [] ∧ offer.value = none ∧ offer.output = []
  | .rung => Ambiguous words q.text ∧ offer.value = none ∧ offer.output = [bellChar]
  | .listed =>
    Ambiguous words q.text ∧ offer.value = none ∧
      offer.output = .char '\n' :: Text.join [.char ' ', .char ' '] (candidates words q.text) ++
        .char '\n' :: prompt ++ q.buffer

variable {words : List Text} {prompt : Text} {q : Question} {c : Completer}

theorem Shows.unique {offer : Offer} {reaction other : Reaction}
    (h : Shows words prompt q offer reaction)
    (h' : Shows words prompt q offer other) : reaction = other := by
  have hline (rest : Text) : bellChar :: [] ≠ .char '\n' :: rest := by simp [bellChar]
  cases reaction <;> cases other <;> simp_all [Shows]

/-! ### One question -/

theorem ask_zero (e : LineEditor) (c : Completer) (text : Text) :
    e.ask c text 0 = (e.offer (c.complete text).1, (c.complete text).2) := rfl

theorem ask_other (e : LineEditor) (c : Completer) (text : Text) {number : Int}
    (h : number ≠ 0) : e.ask c text number = ({}, c) := by
  simp only [LineEditor.ask, if_neg h]

/-- Every question for candidate zero has exactly one reaction, and what is offered for it completes
the text. -/
theorem Knows.offered (h : c.Knows words) (prompt : Text) (q : Question) :
    (∀ v, ((⟨prompt, q.buffer⟩ : LineEditor).offer (c.complete q.text).1).value = some v →
      Completes words q.text v) ∧
    ∃! reaction, Shows words prompt q
      ((⟨prompt, q.buffer⟩ : LineEditor).offer (c.complete q.text).1) reaction := by
  have sole (reaction : Reaction) {offer : Offer} (hshows : Shows words prompt q offer reaction) :
      ∃! reaction, Shows words prompt q offer reaction :=
    ⟨reaction, hshows, fun _ hother => hother.unique hshows⟩
  rw [h.complete_eq]
  rcases answer_cases words c.pending q.text with ⟨hnone, hanswer⟩ | ⟨w, hone, hanswer⟩ |
    ⟨hseveral, hshared, hanswer⟩ | ⟨hambiguous, -, hanswer⟩ | ⟨hambiguous, -, hanswer⟩
  · rw [hanswer]
    refine ⟨?_, sole .unmatched ⟨hnone, rfl, rfl⟩⟩
    intro v hv
    cases hv
  · rw [hanswer]
    refine ⟨?_, sole .replaced ⟨rfl, rfl⟩⟩
    intro v hv
    have hword : w ++ [.char ' '] = v := Option.some.inj hv
    have hmem : w ∈ candidates words q.text := hone ▸ List.mem_singleton_self w
    have hstarts : q.text <+: w := (mem_candidates.1 hmem).2
    subst hword
    refine ⟨hstarts.trans (List.prefix_append w [.char ' ']), ?_, .inl ⟨w, hone, rfl⟩⟩
    intro heq
    have hlength := congrArg List.length heq
    have hle := hstarts.length_le
    simp only [List.length_append, List.length_singleton] at hlength
    omega
  · rw [hanswer]
    refine ⟨?_, sole .replaced ⟨rfl, rfl⟩⟩
    intro v hv
    have hword : Text.sharedByAll (candidates words q.text) = v := Option.some.inj hv
    have hne : candidates words q.text ≠ [] := List.ne_nil_of_length_pos (by omega)
    subst hword
    exact ⟨prefix_sharedByAll_candidates hne, hshared.symm, .inr ⟨hseveral, rfl⟩⟩
  · rw [hanswer]
    refine ⟨?_, sole .listed ⟨hambiguous, rfl, rfl⟩⟩
    intro v hv
    cases hv
  · rw [hanswer]
    refine ⟨?_, sole .rung ⟨hambiguous, rfl, rfl⟩⟩
    intro v hv
    cases hv

theorem Knows.ask (h : c.Knows words) (prompt : Text) (q : Question) :
    ((⟨prompt, q.buffer⟩ : LineEditor).ask c q.text q.number).2.Knows words := by
  by_cases hzero : q.number = 0
  · rw [hzero, ask_zero, h.complete_eq]
    exact h.ring _
  · rw [ask_other _ c q.text hzero]
    exact h

/-! ### Rows of questions -/

/-- What holds of an offer, whatever the questions before it were. -/
def Fits (words : List Text) (prompt : Text) (q : Question) (offer : Offer) : Prop :=
  (∀ v, offer.value = some v → Completes words q.text v) ∧
    (q.number = 0 → ∃! reaction, Shows words prompt q offer reaction)

theorem Knows.fits (h : c.Knows words) (prompt : Text) (q : Question) :
    Fits words prompt q ((⟨prompt, q.buffer⟩ : LineEditor).ask c q.text q.number).1 := by
  by_cases hzero : q.number = 0
  · obtain ⟨hvalue, hsole⟩ := h.offered prompt q
    rw [hzero, ask_zero]
    exact ⟨hvalue, fun _ => hsole⟩
  · rw [ask_other _ c q.text hzero]
    refine ⟨?_, fun h => absurd h hzero⟩
    intro v hv
    cases hv

theorem Knows.interview_fits (h : c.Knows words) (prompt : Text) (questions : List Question) :
    List.Forall₂ (Fits words prompt) questions (c.interview prompt questions).1 := by
  induction questions generalizing c with
  | nil => exact .nil
  | cons q rest ih => exact .cons (h.fits prompt q) (ih (h.ask prompt q))

theorem Knows.interview (h : c.Knows words) (prompt : Text) (questions : List Question) :
    (c.interview prompt questions).2.Knows words := by
  induction questions generalizing c with
  | nil => exact h
  | cons q rest ih => exact ih (h.ask prompt q)

/-- The questions for candidate zero. -/
def asked (questions : List Question) : List Question := questions.filter (·.number = 0)

/-- Without the questions for other candidates, the offers for the rest, all that is written and
the completer in the end are the same. -/
theorem interview_asked (prompt : Text) (c : Completer) (questions : List Question) :
    let whole := c.interview prompt questions
    let part := c.interview prompt (asked questions)
    ((questions.zip whole.1).filter (·.1.number = 0)).map (·.2) = part.1 ∧
      whole.1.flatMap (·.output) = part.1.flatMap (·.output) ∧ whole.2 = part.2 := by
  induction questions generalizing c with
  | nil => exact ⟨rfl, rfl, rfl⟩
  | cons q rest ih =>
    obtain ⟨hoffers, houtput, hlast⟩ :=
      ih ((⟨prompt, q.buffer⟩ : LineEditor).ask c q.text q.number).2
    by_cases hzero : q.number = 0
    · have hasked : asked (q :: rest) = q :: asked rest := by simp [asked, hzero]
      rw [hasked]
      refine ⟨?_, ?_, hlast⟩
      · simp only [interview, List.zip_cons_cons, List.filter_cons, hzero, decide_true, if_true,
          List.map_cons] at hoffers ⊢
        rw [hoffers]
      · simp only [interview, List.flatMap_cons] at houtput ⊢
        rw [houtput]
    · have hasked : asked (q :: rest) = asked rest := by simp [asked, hzero]
      rw [ask_other _ c q.text hzero] at hoffers houtput hlast
      rw [hasked]
      refine ⟨?_, ?_, ?_⟩
      · simpa [interview, ask_other _ c q.text hzero, hzero] using hoffers
      · simpa [interview, ask_other _ c q.text hzero] using houtput
      · simpa [interview, ask_other _ c q.text hzero] using hlast

/-- Every offer of `ReadlineCompleter` extends the text it is for. A call for state 0 has one of
four outcomes, and calls for other states change nothing. -/
theorem interview_keeps_text (words : List Text) (prompt : Text) (questions : List Question) :
    let whole := (ofList words).interview prompt questions
    let part := (ofList words).interview prompt (asked questions)
    List.Forall₂ (Fits words prompt) questions whole.1 ∧
      ((questions.zip whole.1).filter (·.1.number = 0)).map (·.2) = part.1 ∧
      whole.1.flatMap (·.output) = part.1.flatMap (·.output) ∧
      whole.2.pending = part.2.pending := by
  intro whole part
  obtain ⟨hoffers, houtput, hlast⟩ := interview_asked prompt (ofList words) questions
  exact ⟨(knows_ofList words).interview_fits prompt questions, hoffers, houtput,
    congrArg Completer.pending hlast⟩

example :
    ((ofList ["cat".runes, "car".runes, "dog".runes]).interview [.char '$', .char ' ']
      [⟨[.char 'c'], 0, [.char 'c']⟩, ⟨[.char 'c'], 1, [.char 'c']⟩, ⟨"ca".runes, 0, "ca".runes⟩,
        ⟨"ca".runes, 0, "ca".runes⟩, ⟨[.char 'd'], 0, [.char 'd']⟩]).1 =
      [{ value := some "ca".runes }, {}, { output := [bellChar] },
        { output := "\ncar  cat\n$ ca".runes }, { value := some "dog ".runes }] := by
  cbv

end Completer
end PipelineShell
