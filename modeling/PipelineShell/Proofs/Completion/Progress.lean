import PipelineShell.Proofs.Completion.Answer
import PipelineShell.Proofs.Completion.Walk

/-!
# Extending a prefix

The prefix that `complete` returns has the candidates of the one it was given, in the same order,
and is not extended any further.
-/

namespace PipelineShell

namespace Trie

variable {t node : Trie} {place further : Trie × Text} {start : Text}

theorem below?_append (t : Trie) (start more : Text) :
    t.below? (start ++ more) = (t.below? start).bind (·.below? more) := by
  induction start generalizing t with
  | nil => rfl
  | cons c start ih =>
    show (t.children.child? c).bind (·.below? (start ++ more)) =
      ((t.children.child? c).bind (·.below? start)).bind (·.below? more)
    rw [Option.bind_assoc]
    exact congrArg _ (funext ih)

theorem below?_onlyChild (hplace : t.below? place.2 = some place.1)
    (h : onlyChild? place = some further) : t.below? further.2 = some further.1 := by
  obtain ⟨hnone, -⟩ | ⟨c, ends, below, hnode, hsome⟩ := onlyChild?_cases place
  · rw [hnone] at h
    cases h
  · rw [hsome] at h
    cases h
    rw [below?_append, hplace, hnode]
    simp [below?, Forest.child?]

theorem wordsBehind_onlyChild (h : onlyChild? place = some further) :
    further.1.wordsBehind further.2 = place.1.wordsBehind place.2 := by
  obtain ⟨hnone, -⟩ | ⟨c, ends, below, hnode, hsome⟩ := onlyChild?_cases place
  · rw [hnone] at h
    cases h
  · rw [hsome] at h
    cases h
    simp [wordsBehind, hnode, Forest.words]

/-- Where the longest common prefix ends stands a node that lists what is listed at the start, and
the way does not go on from it as a single one. -/
theorem exists_below_longestCommonPrefix (hnode : t.below? start = some node) :
    ∃ last, t.below? (t.longestCommonPrefix start) = some last ∧
      last.wordsBehind (t.longestCommonPrefix start) = node.wordsBehind start ∧
      onlyChild? (last, t.longestCommonPrefix start) = none := by
  obtain ⟨last, hturns, hended⟩ := turns_onlyChild (node, start) (Nat.le_refl _)
  rw [← longestCommonPrefix_eq_reach hnode] at hturns hended
  have hbelow := turns_invariant (P := fun place => t.below? place.2 = some place.1)
    (fun _ _ hstep hplace => below?_onlyChild hplace hstep) node.size (a := (node, start)) hnode
  have hlisted := turns_keeps (f := fun place : Trie × Text => place.1.wordsBehind place.2)
    (fun _ _ => wordsBehind_onlyChild) node.size (node, start)
  rw [hturns] at hbelow hlisted
  exact ⟨last, hbelow, hlisted, hended⟩

theorem longestCommonPrefix_of_none (h : t.below? start = none) :
    t.longestCommonPrefix start = start := by
  simp only [longestCommonPrefix, h]

theorem wordsWithPrefix_longestCommonPrefix (t : Trie) (start : Text) :
    t.wordsWithPrefix (t.longestCommonPrefix start) = t.wordsWithPrefix start := by
  cases hnode : t.below? start with
  | none => rw [longestCommonPrefix_of_none hnode]
  | some node =>
    obtain ⟨last, hlast, hlisted, -⟩ := exists_below_longestCommonPrefix hnode
    rw [wordsWithPrefix_of_some hlast, wordsWithPrefix_of_some hnode, hlisted]

theorem longestCommonPrefix_longestCommonPrefix (t : Trie) (start : Text) :
    t.longestCommonPrefix (t.longestCommonPrefix start) = t.longestCommonPrefix start := by
  cases hnode : t.below? start with
  | none => rw [longestCommonPrefix_of_none hnode, longestCommonPrefix_of_none hnode]
  | some node =>
    obtain ⟨last, hlast, -, hended⟩ := exists_below_longestCommonPrefix hnode
    rw [longestCommonPrefix_eq_reach hlast, reach_of_none hended]

theorem prefix_longestCommonPrefix (t : Trie) (start : Text) :
    start <+: t.longestCommonPrefix start := by
  cases hnode : t.below? start with
  | none => exact ⟨[], by rw [List.append_nil, longestCommonPrefix_of_none hnode]⟩
  | some node =>
    rw [longestCommonPrefix_of_some hnode]
    split
    · exact List.prefix_rfl
    · exact List.prefix_append ..

end Trie

namespace Completer

variable {c : Completer} {start word longer : Text}

theorem complete_of_single (h : c.trie.wordsWithPrefix start = [word]) :
    c.complete start = (.full word, c) := by
  simp only [complete, h]

theorem single_of_full (h : (c.complete start).1 = .full word) :
    c.trie.wordsWithPrefix start = [word] := by
  unfold complete at h
  split at h
  · cases h
  · next other hlist =>
    rw [hlist, Completion.full.inj h]
  · simp only at h
    split at h
    · cases h
    · split at h <;> cases h

theorem several_of_extended (h : (c.complete start).1 = .extended longer) :
    2 ≤ (c.trie.wordsWithPrefix start).length ∧ c.trie.longestCommonPrefix start = longer ∧
      start.length < longer.length ∧ (c.complete start).2 = c := by
  have hseveral : 2 ≤ (c.trie.wordsWithPrefix start).length := by
    unfold complete at h
    split at h
    · cases h
    · cases h
    · next hnone hone =>
      match hlist : c.trie.wordsWithPrefix start with
      | [] => exact absurd hlist hnone
      | [w] => exact absurd hlist (hone w)
      | _ :: _ :: _ => simp
  rw [complete_of_several hseveral] at h ⊢
  split at h
  · next hlonger =>
    rw [if_pos hlonger]
    have hlongest : c.trie.longestCommonPrefix start = longer := Completion.extended.inj h
    exact ⟨hseveral, hlongest, hlongest ▸ hlonger, rfl⟩
  · split at h <;> cases h

/-- At a text that nothing extends, several candidates leave only the bell and their list. -/
theorem complete_of_settled (hseveral : 2 ≤ (c.trie.wordsWithPrefix start).length)
    (hsettled : c.trie.longestCommonPrefix start = start) :
    (c.complete start).1 =
      if c.pending = some start then .listing start (Text.sort (c.trie.wordsWithPrefix start))
      else .bell start := by
  rw [complete_of_several hseveral, hsettled, if_neg (Nat.lt_irrefl _)]
  split <;> rfl

/-- An extension is longer than the prefix and has the same candidates in the same order; asked for,
it rings or lists. A full completion continues the prefix and is a full completion of itself. -/
theorem complete_progress (words : List Text) (pending : Option Text) (start : Text) :
    let c : Completer := { trie := Trie.ofList words, pending }
    (∀ longer, (c.complete start).1 = .extended longer →
      (start <+: longer ∧ start ≠ longer) ∧
        c.trie.wordsWithPrefix longer = c.trie.wordsWithPrefix start ∧
        c.trie.longestCommonPrefix longer = longer ∧ (c.complete start).2 = c ∧
        ∀ d : Completer, d.trie = c.trie →
          (d.complete longer).1 =
            if d.pending = some longer then
              .listing longer (Text.sort (c.trie.wordsWithPrefix start))
            else .bell longer) ∧
      ∀ word, (c.complete start).1 = .full word →
        start <+: word ∧ (c.complete start).2 = c ∧
          ∀ d : Completer, d.trie = c.trie → d.complete word = (.full word, d) := by
  intro c
  have hgrown : c.trie.Grown := Trie.grown_ofList words
  constructor
  · intro longer hextended
    obtain ⟨hseveral, hlongest, hlonger, hstate⟩ := several_of_extended hextended
    have hstarts : start <+: longer := hlongest ▸ Trie.prefix_longestCommonPrefix c.trie start
    have hlisted : c.trie.wordsWithPrefix longer = c.trie.wordsWithPrefix start :=
      hlongest ▸ Trie.wordsWithPrefix_longestCommonPrefix c.trie start
    have hsettled : c.trie.longestCommonPrefix longer = longer :=
      hlongest ▸ Trie.longestCommonPrefix_longestCommonPrefix c.trie start
    refine ⟨⟨hstarts, ?_⟩, hlisted, hsettled, hstate, ?_⟩
    · rintro rfl
      exact Nat.lt_irrefl _ hlonger
    · intro d htrie
      rw [← hlisted, ← htrie]
      apply complete_of_settled
      · rw [htrie, hlisted]
        exact hseveral
      · rw [htrie, hsettled]
  · intro word hfull
    have hsingle : c.trie.wordsWithPrefix start = [word] := single_of_full hfull
    have hword (w : Text) : c.trie.contains w = true ∧ start <+: w ↔ w = word := by
      rw [← hgrown.mem_wordsWithPrefix_iff, hsingle, List.mem_singleton]
    obtain ⟨hcontains, hstarts⟩ := (hword word).2 rfl
    refine ⟨hstarts, by rw [complete_of_single hsingle], fun d htrie => complete_of_single ?_⟩
    -- what has the word as a prefix has the prefix of the word
    have hmem (w : Text) : w ∈ c.trie.wordsWithPrefix word ↔ w ∈ [word] := by
      rw [hgrown.mem_wordsWithPrefix_iff, List.mem_singleton]
      constructor
      · rintro ⟨hw, hlonger⟩
        exact (hword w).1 ⟨hw, hstarts.trans hlonger⟩
      · rintro rfl
        exact ⟨hcontains, List.prefix_rfl⟩
    have hnodup := hgrown.nodup_wordsWithPrefix word
    have hperm : (c.trie.wordsWithPrefix word).Perm [word] :=
      (List.perm_ext_iff_of_nodup hnodup (List.nodup_singleton word)).2 hmem
    rw [htrie]
    exact hperm.eq_singleton

/-- From `ex` on to `exp`, for which the bell has been rung before, and from `ec` to the one word
that goes on from it. -/
theorem complete_progress_rung :
    let words := ["export".runes, "echo".runes, "expand".runes]
    let c : Completer := { trie := Trie.ofList words, pending := some "exp".runes }
    (c.complete "ex".runes).1 = .extended "exp".runes ∧
      (c.complete "exp".runes).1 =
        .listing "exp".runes ["expand".runes, "export".runes] ∧
      (c.complete "ec".runes).1 = .full "echo".runes ∧
      (c.complete "echo".runes).1 = .full "echo".runes := by
  intro words c
  have hextended : (c.complete "ex".runes).1 = .extended "exp".runes := by rfl
  have hfull : (c.complete "ec".runes).1 = .full "echo".runes := by rfl
  obtain ⟨-, -, -, -, hnext⟩ :=
    (complete_progress words (some "exp".runes) "ex".runes).1 _ hextended
  obtain ⟨-, -, hagain⟩ := (complete_progress words (some "exp".runes) "ec".runes).2 _ hfull
  have hwords : c.trie.wordsWithPrefix "ex".runes = ["export".runes, "expand".runes] := by rfl
  have hsorted : Text.sort ["export".runes, "expand".runes] =
      ["expand".runes, "export".runes] := by
    rw [Text.sort_eq_of_perm (.swap "expand".runes "export".runes [])]
    exact Text.sort_of_ascending (by decide)
  refine ⟨hextended, ?_, hfull, ?_⟩
  · rw [hnext c rfl, if_pos rfl, hwords, hsorted]
  · rw [hagain c rfl]

end Completer
end PipelineShell
