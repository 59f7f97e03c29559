import Mathlib.Data.List.Dedup
import PipelineShell.Completion.Completer
import PipelineShell.Proofs.Completion.Listing
import PipelineShell.Proofs.Text.Order

/-!
# What a request is answered with

`Completer.complete` depends on the set of the words and on `pending_prefix` only.
-/

namespace PipelineShell

namespace Text

theorem sharedByAll_congr {texts others : List Text} (hne : texts ≠ [])
    (h : ∀ t, t ∈ texts ↔ t ∈ others) : sharedByAll texts = sharedByAll others := by
  obtain ⟨t, ht⟩ := List.exists_mem_of_ne_nil texts hne
  have hne' : others ≠ [] := List.ne_nil_of_mem ((h t).1 ht)
  refine eq_sharedByAll hne' fun p => (prefix_sharedByAll_iff p hne).trans ?_
  exact forall_congr' fun t => imp_congr_left (h t)

end Text

namespace Completer

/-! ### The words in question -/

/-- The known words with a prefix, each once, in ascending order. -/
def candidates (words : List Text) (start : Text) : List Text :=
  Text.sort (words.filter start.isPrefixOf).dedup

variable {words others : List Text} {start w : Text}

theorem mem_candidates : w ∈ candidates words start ↔ w ∈ words ∧ start <+: w := by
  rw [candidates, Text.mem_sort, List.mem_dedup, List.mem_filter, List.isPrefixOf_iff_prefix]

theorem candidates_ascending (words : List Text) (start : Text) :
    (candidates words start).Pairwise Text.Before :=
  Text.strictly_sorted (List.nodup_dedup _)

/-- A row without repetitions that has the candidates in it is the candidates but for the order. -/
theorem perm_candidates {row : List Text} (hrow : row.Nodup)
    (h : ∀ w, w ∈ row ↔ w ∈ words ∧ start <+: w) : row.Perm (candidates words start) := by
  have hnodup : (candidates words start).Nodup :=
    (Text.sort_perm _).nodup_iff.2 (List.nodup_dedup _)
  refine (List.perm_ext_iff_of_nodup hrow hnodup).2 fun w => ?_
  rw [h, mem_candidates]

theorem candidates_congr (h : ∀ w, w ∈ words ↔ w ∈ others) (start : Text) :
    candidates words start = candidates others start := by
  refine Text.sort_eq_of_perm ?_
  refine (List.perm_ext_iff_of_nodup (List.nodup_dedup _) (List.nodup_dedup _)).2 fun w => ?_
  rw [List.mem_dedup, List.mem_dedup, List.mem_filter, List.mem_filter, h]

theorem prefix_sharedByAll_candidates (hne : candidates words start ≠ []) :
    start <+: Text.sharedByAll (candidates words start) :=
  (Text.prefix_sharedByAll_iff start hne).2 fun _ hw => (mem_candidates.1 hw).2

/-! ### The answers -/

/-- At least two words have the prefix, and they share nothing more. -/
def Ambiguous (words : List Text) (start : Text) : Prop :=
  2 ≤ (candidates words start).length ∧ Text.sharedByAll (candidates words start) = start

instance (words : List Text) (start : Text) : Decidable (Ambiguous words start) :=
  inferInstanceAs (Decidable (_ ∧ _))

/-- The answer for a prefix that is not ambiguous. -/
def directAnswer (words : List Text) (start : Text) : Completion :=
  match candidates words start with
  | [] => .none
  | [word] => .full word
  | several => .extended (Text.sharedByAll several)

/-- The answer for known words, and the prefix that the bell stands for from then on. -/
def answer (words : List Text) (pending : Option Text) (start : Text) : Completion × Option Text :=
  if Ambiguous words start then
    if pending = some start then (.listing start (candidates words start), none)
    else (.bell start, some start)
  else (directAnswer words start, pending)

theorem answer_of_clear (h : ¬Ambiguous words start) (pending : Option Text) :
    answer words pending start = (directAnswer words start, pending) := by
  simp only [answer, if_neg h]

theorem answer_of_ambiguous (h : Ambiguous words start) (pending : Option Text) :
    answer words pending start =
      if pending = some start then (.listing start (candidates words start), none)
      else (.bell start, some start) := by
  simp only [answer, if_pos h]

theorem answer_congr (h : ∀ w, w ∈ words ↔ w ∈ others) (pending : Option Text) (start : Text) :
    answer words pending start = answer others pending start := by
  have hsame := candidates_congr h start
  have hiff : Ambiguous words start ↔ Ambiguous others start := by
    rw [Ambiguous, Ambiguous, hsame]
  by_cases hwords : Ambiguous words start
  · rw [answer_of_ambiguous hwords, answer_of_ambiguous (hiff.1 hwords), hsame]
  · rw [answer_of_clear hwords, answer_of_clear (mt hiff.2 hwords), directAnswer, directAnswer,
      hsame]

theorem directAnswer_of_several (h : 2 ≤ (candidates words start).length) :
    directAnswer words start = .extended (Text.sharedByAll (candidates words start)) := by
  unfold directAnswer
  cases hlist : candidates words start with
  | nil => simp [hlist] at h
  | cons first rest =>
    cases rest with
    | nil => simp [hlist] at h
    | cons second rest => rfl

theorem answer_cases (words : List Text) (pending : Option Text) (start : Text) :
    (candidates words start = [] ∧ answer words pending start = (.none, pending)) ∨
      (∃ w, candidates words start = [w] ∧ answer words pending start = (.full w, pending)) ∨
      (2 ≤ (candidates words start).length ∧ Text.sharedByAll (candidates words start) ≠ start ∧
        answer words pending start =
          (.extended (Text.sharedByAll (candidates words start)), pending)) ∨
      (Ambiguous words start ∧ pending = some start ∧
        answer words pending start = (.listing start (candidates words start), none)) ∨
      (Ambiguous words start ∧ pending ≠ some start ∧
        answer words pending start = (.bell start, some start)) := by
  by_cases hambiguous : Ambiguous words start
  · rw [answer_of_ambiguous hambiguous]
    by_cases hrung : pending = some start
    · exact .inr (.inr (.inr (.inl ⟨hambiguous, hrung, if_pos hrung⟩)))
    · exact .inr (.inr (.inr (.inr ⟨hambiguous, hrung, if_neg hrung⟩)))
  · rw [answer_of_clear hambiguous]
    rcases Nat.lt_or_ge (candidates words start).length 2 with hfew | hseveral
    · unfold directAnswer
      cases hlist : candidates words start with
      | nil => exact .inl ⟨rfl, rfl⟩
      | cons first rest =>
        cases rest with
        | nil => exact .inr (.inl ⟨first, rfl, rfl⟩)
        | cons second rest =>
          simp only [hlist, List.length_cons] at hfew
          omega
    · have hshared : Text.sharedByAll (candidates words start) ≠ start :=
        fun hshared => hambiguous ⟨hseveral, hshared⟩
      rw [directAnswer_of_several hseveral]
      exact .inr (.inr (.inl ⟨hseveral, hshared, rfl⟩))

/-! ### What a completer knows -/

/-- The completer has these words, in a trie that was made by insertions. -/
structure Knows (c : Completer) (words : List Text) : Prop where
  grown : c.trie.Grown
  contains_iff : ∀ w, c.trie.contains w = true ↔ w ∈ words

variable {c : Completer}

theorem knows_ofList (words : List Text) : (ofList words).Knows words :=
  ⟨Trie.grown_ofList words, Trie.contains_ofList words⟩

theorem Knows.insert (h : c.Knows words) (word : Text) :
    (c.insert word).Knows (words ++ [word]) := by
  refine ⟨h.grown.insert word, fun w => ?_⟩
  have hcontains : (c.insert word).trie.contains w = true ↔ w = word ∨ c.trie.contains w = true :=
    Trie.contains_insert c.trie word w
  rw [hcontains, h.contains_iff, List.mem_append, List.mem_singleton]
  exact Or.comm

theorem Knows.ring (h : c.Knows words) (pending : Option Text) :
    ({ c with pending } : Completer).Knows words := ⟨h.grown, h.contains_iff⟩

theorem Knows.wordsWithPrefix_perm (h : c.Knows words) (start : Text) :
    (c.trie.wordsWithPrefix start).Perm (candidates words start) := by
  refine perm_candidates (h.grown.nodup_wordsWithPrefix start) fun w => ?_
  rw [h.grown.mem_wordsWithPrefix_iff, h.contains_iff]

theorem Knows.longestCommonPrefix_eq (h : c.Knows words) (hne : c.trie.wordsWithPrefix start ≠ []) :
    c.trie.longestCommonPrefix start = Text.sharedByAll (candidates words start) := by
  rw [h.grown.longestCommonPrefix_eq hne]
  exact Text.sharedByAll_congr hne fun w => (h.wordsWithPrefix_perm start).mem_iff

theorem complete_of_several (h : 2 ≤ (c.trie.wordsWithPrefix start).length) :
    c.complete start =
      if (c.trie.longestCommonPrefix start).length > start.length then
        (.extended (c.trie.longestCommonPrefix start), c)
      else if c.pending = some start then
        (.listing start (Text.sort (c.trie.wordsWithPrefix start)),
          { c with pending := Option.none })
      else (.bell start, { c with pending := some start }) := by
  unfold complete
  cases hlist : c.trie.wordsWithPrefix start with
  | nil => simp [hlist] at h
  | cons first rest =>
    cases rest with
    | nil => simp [hlist] at h
    | cons second rest => rfl

theorem Knows.complete_of_several (h : c.Knows words)
    (hseveral : 2 ≤ (candidates words start).length) :
    c.complete start =
      if (Text.sharedByAll (candidates words start)).length > start.length then
        (.extended (Text.sharedByAll (candidates words start)), c)
      else if c.pending = some start then
        (.listing start (candidates words start), { c with pending := Option.none })
      else (.bell start, { c with pending := some start }) := by
  have hperm := h.wordsWithPrefix_perm start
  have hlisted : 2 ≤ (c.trie.wordsWithPrefix start).length := hperm.length_eq ▸ hseveral
  have hne : c.trie.wordsWithPrefix start ≠ [] := List.ne_nil_of_length_pos (by omega)
  have hsort : Text.sort (c.trie.wordsWithPrefix start) = candidates words start := by
    rw [Text.sort_eq_of_perm hperm]
    exact Text.sort_of_ascending (candidates_ascending words start)
  rw [Completer.complete_of_several hlisted, h.longestCommonPrefix_eq hne, hsort]

theorem Knows.complete_eq (h : c.Knows words) (start : Text) :
    c.complete start =
      ((answer words c.pending start).1,
        { c with pending := (answer words c.pending start).2 }) := by
  have hperm := h.wordsWithPrefix_perm start
  rcases answer_cases words c.pending start with ⟨hnone, hanswer⟩ | ⟨w, hone, hanswer⟩ |
    ⟨hseveral, hshared, hanswer⟩ | ⟨⟨hseveral, hshared⟩, hrung, hanswer⟩ |
    ⟨⟨hseveral, hshared⟩, hrung, hanswer⟩
  · rw [hnone] at hperm
    unfold complete
    rw [hanswer, hperm.eq_nil]
  · rw [hone] at hperm
    unfold complete
    rw [hanswer, hperm.eq_singleton]
  · have hne : candidates words start ≠ [] := List.ne_nil_of_length_pos (by omega)
    have hstarts := prefix_sharedByAll_candidates hne
    have hlonger : (Text.sharedByAll (candidates words start)).length > start.length := by
      have hle := hstarts.length_le
      have hlengths : start.length ≠ (Text.sharedByAll (candidates words start)).length :=
        fun heq => hshared (hstarts.eq_of_length heq).symm
      omega
    rw [h.complete_of_several hseveral, if_pos hlonger, hanswer]
  · have hequal : ¬(Text.sharedByAll (candidates words start)).length > start.length := by
      rw [hshared]
      omega
    rw [h.complete_of_several hseveral, if_neg hequal, if_pos hrung, hanswer]
  · have hequal : ¬(Text.sharedByAll (candidates words start)).length > start.length := by
      rw [hshared]
      omega
    rw [h.complete_of_several hseveral, if_neg hequal, if_neg hrung, hanswer]

theorem Knows.candidates_of_full {w : Text} (h : c.Knows words)
    (hfull : (c.complete start).1 = .full w) : candidates words start = [w] := by
  rw [h.complete_eq] at hfull
  rcases answer_cases words c.pending start with ⟨-, hanswer⟩ | ⟨v, hone, hanswer⟩ |
    ⟨-, -, hanswer⟩ | ⟨-, -, hanswer⟩ | ⟨-, -, hanswer⟩
  · simp [hanswer] at hfull
  · rw [hanswer] at hfull
    rw [hone, Completion.full.inj hfull]
  · simp [hanswer] at hfull
  · simp [hanswer] at hfull
  · simp [hanswer] at hfull

end Completer
end PipelineShell
