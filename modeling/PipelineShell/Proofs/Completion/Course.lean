import Mathlib.Data.List.Permutation
import PipelineShell.Proofs.Completion.Answer

/-!
# The bell protocol

Runs of `complete` and `insert`: only ambiguous requests change `pending_prefix`.
-/

namespace PipelineShell.Completer

/-- What a completer is asked for: to complete a prefix, or to learn a word. -/
inductive Request
  | complete (start : Text)
  | insert (word : Text)
  deriving DecidableEq, Repr

/-- A request for completion as it was answered: the words known when it came, the prefix, the
answer, and the prefix that the bell stood for afterwards. -/
structure Call where
  known : List Text
  start : Text
  completion : Completion
  pending : Option Text
  deriving DecidableEq, Repr

namespace Call

def reply (call : Call) : Completion × Option Text := (call.completion, call.pending)

def isAmbiguous (call : Call) : Bool := Ambiguous call.known call.start

end Call

def take (c : Completer) : Request → Completer
  | .complete start => (c.complete start).2
  | .insert word => c.insert word

def after (c : Completer) (requests : List Request) : Completer := requests.foldl take c

/-- The words known behind some requests, for those known in front of them. -/
def known (words : List Text) : List Request → List Text
  | [] => words
  | .complete _ :: rest => known words rest
  | .insert word :: rest => known (words ++ [word]) rest

/-- The requests for completion with their answers, in order. -/
def calls (words : List Text) (c : Completer) : List Request → List Call
  | [] => []
  | .complete start :: rest =>
    ⟨words, start, (c.complete start).1, (c.complete start).2.pending⟩ ::
      calls words (c.complete start).2 rest
  | .insert word :: rest => calls (words ++ [word]) (c.insert word) rest

variable {words others : List Text} {c d : Completer} {start : Text}

theorem Knows.complete (h : c.Knows words) (start : Text) : (c.complete start).2.Knows words := by
  rw [h.complete_eq]
  exact h.ring _

theorem Knows.after (h : c.Knows words) (requests : List Request) :
    (c.after requests).Knows (known words requests) := by
  induction requests generalizing c words with
  | nil => exact h
  | cons request rest ih =>
    cases request with
    | complete start => exact ih (h.complete start)
    | insert word => exact ih (h.insert word)

/-! ### The order of the words -/

theorem Knows.replies_eq (h : c.Knows words) (h' : d.Knows others)
    (hsame : ∀ w, w ∈ words ↔ w ∈ others) (hpending : c.pending = d.pending)
    (requests : List Request) :
    (calls words c requests).map Call.reply = (calls others d requests).map Call.reply := by
  induction requests generalizing c d words others with
  | nil => rfl
  | cons request rest ih =>
    cases request with
    | complete start =>
      have hanswer : answer words c.pending start = answer others d.pending start := by
        rw [hpending]
        exact answer_congr hsame d.pending start
      have hfirst : (c.complete start).1 = (d.complete start).1 := by
        rw [h.complete_eq, h'.complete_eq, hanswer]
      have hbell : (c.complete start).2.pending = (d.complete start).2.pending := by
        rw [h.complete_eq, h'.complete_eq, hanswer]
      have hrest := ih (h.complete start) (h'.complete start) hsame hbell
      simp only [calls, List.map_cons, Call.reply, hfirst, hbell] at hrest ⊢
      rw [hrest]
    | insert word =>
      refine ih (h.insert word) (h'.insert word) ?_ hpending
      intro w
      rw [List.mem_append, List.mem_append, hsame]

/-- Completers for the same words, in whatever order and however often they came, answer every row
of requests alike. -/
theorem replies_of_same_words {words others : List Text} (h : ∀ w, w ∈ words ↔ w ∈ others)
    (requests : List Request) :
    (calls words (ofList words) requests).map Call.reply =
      (calls others (ofList others) requests).map Call.reply :=
  (knows_ofList words).replies_eq (knows_ofList others) h rfl requests

theorem replies_of_same_words_repeated :
    let words := ["cat".runes, "car".runes]
    let others := ["car".runes, "cat".runes, "car".runes]
    let requests := [.complete [.char 'c'], .complete "ca".runes, .insert "cart".runes,
      .complete "ca".runes]
    (ofList words).trie ≠ (ofList others).trie ∧
      (calls words (ofList words) requests).map Call.reply =
        (calls others (ofList others) requests).map Call.reply ∧
      (calls words (ofList words) requests).map Call.reply =
        [(.extended "ca".runes, none), (.bell "ca".runes, some "ca".runes),
          (.listing "ca".runes ["car".runes, "cart".runes, "cat".runes], none)] := by
  refine ⟨by decide, replies_of_same_words ?_ _, by cbv⟩
  intro w
  simp only [List.mem_cons, List.not_mem_nil, or_false]
  exact ⟨fun h => h.elim (fun h => .inr (.inl h)) .inl,
    fun h => h.elim .inr fun h => h.elim .inl .inr⟩

/-! ### Calls in a chain -/

/-- Each call is answered for the words of its time, with the bell as the call before has left
it. -/
def Chained : Option Text → List Call → Prop
  | _, [] => True
  | pending, call :: rest =>
    call.reply = answer call.known pending call.start ∧ Chained call.pending rest

/-- The prefix that the bell stands for behind some calls. -/
def pendingBehind (pending : Option Text) (row : List Call) : Option Text :=
  (row.getLast?.map Call.pending).getD pending

theorem pendingBehind_cons (pending : Option Text) (call : Call) (row : List Call) :
    pendingBehind pending (call :: row) = pendingBehind call.pending row := by
  unfold pendingBehind
  rw [List.getLast?_cons]
  cases row.getLast? <;> rfl

theorem Knows.chained (h : c.Knows words) (requests : List Request) :
    Chained c.pending (calls words c requests) := by
  induction requests generalizing c words with
  | nil => trivial
  | cons request rest ih =>
    cases request with
    | complete start =>
      refine ⟨?_, ih (h.complete start)⟩
      simp only [Call.reply, h.complete_eq]
    | insert word => exact ih (h.insert word)

theorem pending_after (words : List Text) (c : Completer) (requests : List Request) :
    (c.after requests).pending = pendingBehind c.pending (calls words c requests) := by
  induction requests generalizing c words with
  | nil => rfl
  | cons request rest ih =>
    cases request with
    | complete start =>
      have hrest := ih words (c.complete start).2
      rw [calls, pendingBehind_cons]
      exact hrest
    | insert word => exact ih (words ++ [word]) (c.insert word)

variable {pending : Option Text} {row : List Call} {call : Call}

theorem pending_of_clear (h : call.reply = answer call.known pending call.start)
    (hclear : call.isAmbiguous = false) : call.pending = pending := by
  have hnot : ¬Ambiguous call.known call.start := of_decide_eq_false hclear
  rw [answer_of_clear hnot] at h
  exact congrArg Prod.snd h

theorem Chained.filter (h : Chained pending row) :
    Chained pending (row.filter Call.isAmbiguous) ∧
      pendingBehind pending (row.filter Call.isAmbiguous) = pendingBehind pending row := by
  induction row generalizing pending with
  | nil => exact ⟨trivial, rfl⟩
  | cons call row ih =>
    obtain ⟨hreply, hrow⟩ := h
    obtain ⟨hchained, hbehind⟩ := ih hrow
    cases hcall : call.isAmbiguous with
    | true =>
      rw [List.filter_cons_of_pos hcall, pendingBehind_cons, pendingBehind_cons]
      exact ⟨⟨hreply, hchained⟩, hbehind⟩
    | false =>
      have hsame : call.pending = pending := pending_of_clear hreply hcall
      rw [List.filter_cons_of_neg (by simp [hcall]), pendingBehind_cons]
      exact hsame ▸ ⟨hchained, hbehind⟩

theorem Chained.append {front back : List Call} (h : Chained pending (front ++ back)) :
    Chained pending front ∧ Chained (pendingBehind pending front) back := by
  induction front generalizing pending with
  | nil => exact ⟨trivial, h⟩
  | cons call front ih =>
    obtain ⟨hreply, hrest⟩ := h
    obtain ⟨hfront, hback⟩ := ih hrest
    rw [pendingBehind_cons]
    exact ⟨⟨hreply, hfront⟩, hback⟩

theorem Chained.reply_of_mem (h : Chained pending row) (hcall : call ∈ row) :
    ∃ before, call.reply = answer call.known before call.start := by
  induction row generalizing pending with
  | nil => cases hcall
  | cons first row ih =>
    rcases List.mem_cons.1 hcall with rfl | hcall
    · exact ⟨pending, h.1⟩
    · exact ih h.2 hcall

/-! ### Ringing and listing -/

theorem ring_or_list (h : call.reply = answer call.known pending call.start)
    (hcall : call.isAmbiguous = true) :
    (pending = some call.start ∧ call.pending = none ∧
        call.completion = .listing call.start (candidates call.known call.start)) ∨
      (pending ≠ some call.start ∧ call.pending = some call.start ∧
        call.completion = .bell call.start) := by
  have hambiguous : Ambiguous call.known call.start := of_decide_eq_true hcall
  rw [answer_of_ambiguous hambiguous] at h
  split at h
  · next hrung => exact .inl ⟨hrung, congrArg Prod.snd h, congrArg Prod.fst h⟩
  · next hrung => exact .inr ⟨hrung, congrArg Prod.snd h, congrArg Prod.fst h⟩

theorem pending_eq_some_iff (h : call.reply = answer call.known pending call.start)
    (hcall : call.isAmbiguous = true) :
    call.pending = some start ↔ call.start = start ∧ call.completion = .bell start := by
  rcases ring_or_list h hcall with ⟨-, hpending, hlists⟩ | ⟨-, hpending, hrings⟩
  · rw [hpending, hlists]
    simp
  · rw [hpending, hrings]
    simp

/-- The last ambiguous call was for this prefix and rang the bell. -/
def RangLast (row : List Call) (start : Text) : Prop :=
  ∃ call, (row.filter Call.isAmbiguous).getLast? = some call ∧ call.start = start ∧
    call.completion = .bell start

theorem Chained.pendingBehind_eq_some_iff (h : Chained none row) :
    pendingBehind none row = some start ↔ RangLast row start := by
  obtain ⟨hchained, hbehind⟩ := h.filter
  rw [← hbehind, pendingBehind, RangLast]
  cases hlast : (row.filter Call.isAmbiguous).getLast? with
  | none => simp
  | some call =>
    have hmem : call ∈ row.filter Call.isAmbiguous := List.mem_of_getLast? hlast
    obtain ⟨before, hreply⟩ := hchained.reply_of_mem hmem
    have hcall : call.isAmbiguous = true := (List.mem_filter.1 hmem).2
    simp [pending_eq_some_iff hreply hcall]

/-- The calls for a prefix ring and list in turn, with the bell first if `rings` is true. -/
def Alternate (start : Text) : (rings : Bool) → List Call → Prop
  | _, [] => True
  | true, call :: rest => call.completion = .bell start ∧ Alternate start false rest
  | false, call :: rest =>
    call.completion = .listing start (candidates call.known start) ∧ Alternate start true rest

theorem Chained.alternate (h : Chained pending row)
    (hrow : ∀ call ∈ row, call.isAmbiguous = true ∧ call.start = start) {rings : Bool}
    (hrings : rings = true ↔ pending ≠ some start) : Alternate start rings row := by
  induction row generalizing pending rings with
  | nil => cases rings <;> trivial
  | cons call row ih =>
    obtain ⟨hreply, hrest⟩ := h
    obtain ⟨⟨hcall, rfl⟩, hlater⟩ := List.forall_mem_cons.1 hrow
    rcases ring_or_list hreply hcall with ⟨hbefore, hpending, hlists⟩ | ⟨hbefore, hpending, hrang⟩
    · have hfalse : rings = false := by
        cases rings with
        | false => rfl
        | true => exact absurd hbefore (hrings.1 rfl)
      subst hfalse
      exact ⟨hlists, ih hrest hlater (by simp [hpending])⟩
    · have htrue : rings = true := hrings.2 hbefore
      subst htrue
      exact ⟨hrang, ih hrest hlater (by simp [hpending])⟩

/-- In a stretch of calls for one prefix with none for it right before, the first one rings. -/
theorem Chained.alternate_stretch {front stretch back : List Call}
    (h : Chained none (front ++ stretch ++ back))
    (hall : ∀ call ∈ front ++ stretch ++ back, call.isAmbiguous = true)
    (hstretch : ∀ call ∈ stretch, call.start = start)
    (hfront : ∀ call ∈ front.getLast?, call.start ≠ start) : Alternate start true stretch := by
  obtain ⟨hleft, -⟩ := h.append
  obtain ⟨hbefore, hchained⟩ := hleft.append
  have hmem : ∀ call ∈ front ++ stretch, call.isAmbiguous = true :=
    fun call hcall => hall call (List.mem_append_left back hcall)
  refine hchained.alternate ?_ (iff_of_true rfl ?_)
  · intro call hcall
    exact ⟨hmem call (List.mem_append_right front hcall), hstretch call hcall⟩
  · unfold pendingBehind
    cases hlast : front.getLast? with
    | none => simp
    | some call =>
      have hcall : call ∈ front := List.mem_of_getLast? hlast
      obtain ⟨before, hreply⟩ := hbefore.reply_of_mem hcall
      have hambiguous := hmem call (List.mem_append_left stretch hcall)
      intro hpending
      have hsame := (pending_eq_some_iff hreply hambiguous).1 hpending
      exact hfront call hlast hsame.1

/-- After any requests, an unambiguous call is answered by its candidates and keeps
`pending_prefix`; an ambiguous one lists exactly if the last ambiguous call was for the same prefix
and rang the bell. So repeated calls for one prefix ring and list in turn. -/
theorem bell_protocol (words : List Text) (requests : List Request) :
    let c := (ofList words).after requests
    let now := known words requests
    let row := calls words (ofList words) requests
    (∀ start, ¬Ambiguous now start → c.complete start = (directAnswer now start, c)) ∧
    (∀ start, Ambiguous now start →
      (RangLast row start → (c.complete start).1 = .listing start (candidates now start)) ∧
      (¬RangLast row start → (c.complete start).1 = .bell start)) ∧
    (∀ start, c.pending = some start ↔ RangLast row start) ∧
    (∀ front stretch back start, row.filter Call.isAmbiguous = front ++ stretch ++ back →
      (∀ call ∈ stretch, call.start = start) → (∀ call ∈ front.getLast?, call.start ≠ start) →
        Alternate start true stretch) ∧
    ∀ start, (candidates now start).Pairwise Text.Before ∧
      ∀ w, w ∈ candidates now start ↔ w ∈ now ∧ start <+: w := by
  intro c now row
  have hknows : c.Knows now := (knows_ofList words).after requests
  have hchained : Chained none row := (knows_ofList words).chained requests
  have hpending (start : Text) : c.pending = some start ↔ RangLast row start := by
    rw [← hchained.pendingBehind_eq_some_iff]
    exact iff_of_eq (congrArg (· = some start) (pending_after words (ofList words) requests))
  refine ⟨?_, ?_, hpending, ?_, fun start => ⟨candidates_ascending now start, ?_⟩⟩
  · intro start hclear
    rw [hknows.complete_eq, answer_of_clear hclear]
  · intro start hambiguous
    rw [hknows.complete_eq, answer_of_ambiguous hambiguous, ← hpending]
    exact ⟨fun hrang => by rw [if_pos hrang], fun hnot => by rw [if_neg hnot]⟩
  · intro front stretch back start hrow hstretch hfront
    refine Chained.alternate_stretch (hrow ▸ hchained.filter.1) ?_ hstretch hfront
    intro call hcall
    exact (List.mem_filter.1 (hrow ▸ hcall)).2
  · intro w
    exact mem_candidates

/-- Between the bell and the list for one prefix come two calls that are not ambiguous and a new
word. -/
theorem bell_protocol_interrupted :
    let words := ["cat".runes, "car".runes, "dog".runes]
    let requests :=
      [.complete "ca".runes, .complete [.char 'c'], .insert "cab".runes, .complete [.char 'd']]
    RangLast (calls words (ofList words) requests) "ca".runes ∧
      (((ofList words).after requests).complete "ca".runes).1 =
        .listing "ca".runes ["cab".runes, "car".runes, "cat".runes] := by
  intro words requests
  have hrang : RangLast (calls words (ofList words) requests) "ca".runes :=
    ⟨⟨words, "ca".runes, .bell "ca".runes, some "ca".runes⟩, by cbv, rfl, rfl⟩
  have hlists := ((bell_protocol words requests).2.1 "ca".runes (by cbv)).1 hrang
  have hwords : candidates (known words requests) "ca".runes =
      ["cab".runes, "car".runes, "cat".runes] := by cbv
  exact ⟨hrang, hwords ▸ hlists⟩

end PipelineShell.Completer
