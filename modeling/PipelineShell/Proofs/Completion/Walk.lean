import PipelineShell.Completion.Walk
import PipelineShell.Proofs.Completion.Listing

/-!
# Walks end where the tree says

The loops of `words_with_prefix` and `longest_common_prefix` return what the recursions on the tree
do. The invariant is that the result so far and what the stack stands for stay the same.
-/

namespace PipelineShell

/-! ### Loops -/

section Loops

variable {α : Type} {next? : α → Option α}

theorem turns_none {a : α} (h : next? a = none) (n : Nat) : turns next? n a = a := by
  cases n with
  | zero => rfl
  | succ n => simp only [turns, h]

theorem turns_ended (left : α → Nat) (hlower : ∀ a b, next? a = some b → left b < left a)
    {n : Nat} {a : α} (hn : left a ≤ n) : next? (turns next? n a) = none := by
  induction n generalizing a with
  | zero =>
    cases h : next? a with
    | none => exact h
    | some b =>
      have hlt := hlower a b h
      omega
  | succ n ih =>
    cases h : next? a with
    | none => rwa [turns_none h]
    | some b =>
      have hlt := hlower a b h
      simp only [turns, h]
      exact ih (by omega)

theorem turns_invariant {P : α → Prop} (hstep : ∀ a b, next? a = some b → P a → P b)
    (n : Nat) {a : α} (ha : P a) : P (turns next? n a) := by
  induction n generalizing a with
  | zero => exact ha
  | succ n ih =>
    cases h : next? a with
    | none => rwa [turns_none h]
    | some b =>
      simp only [turns, h]
      exact ih (hstep a b h ha)

theorem turns_keeps {β : Type} {f : α → β} (hkeep : ∀ a b, next? a = some b → f b = f a) (n : Nat)
    (a : α) : f (turns next? n a) = f a := by
  refine turns_invariant (P := fun b => f b = f a) (fun b c hnext hb => ?_) n rfl
  rw [hkeep b c hnext, hb]

end Loops

/-! ### The number of nodes -/

theorem Forest.size_child {f : Forest} {c : Rune} {child : Trie} (h : f.child? c = some child) :
    child.size ≤ f.size := by
  induction f with
  | nil => cases h
  | node key ends below next _ ihnext =>
    unfold child? at h
    split at h
    · cases h
      simp only [Trie.size, size]
      omega
    · have hnext := ihnext h
      simp only [size]
      omega

theorem Trie.size_below {t node : Trie} {start : Text} (h : t.below? start = some node) :
    node.size ≤ t.size := by
  induction start generalizing t with
  | nil =>
    cases h
    exact Nat.le_refl _
  | cons c start ih =>
    obtain ⟨child, hchild, hnode⟩ := Option.bind_eq_some_iff.1 h
    have hfirst := Forest.size_child hchild
    have hrest := ih hnode
    have hroot : t.size = t.children.size + 1 := rfl
    omega

/-! ### Listing with a stack -/

namespace Walk

variable {walk next : Walk} {t : Trie} {start : Text}

/-- The number of nodes that are still to be visited, those below the waiting ones included. -/
def weight : List (Trie × Text) → Nat
  | [] => 0
  | (node, _) :: rest => node.size + weight rest

/-- The words found so far and those that the waiting nodes stand for, in order. -/
def outcome (walk : Walk) : List Text :=
  walk.found ++ walk.stack.flatMap fun (node, text) => node.wordsBehind text

theorem weight_append (stack more : List (Trie × Text)) :
    weight (stack ++ more) = weight stack + weight more := by
  induction stack with
  | nil => simp [weight]
  | cons entry rest ih =>
    simp only [List.cons_append, weight, ih]
    omega

theorem weight_entries (f : Forest) (text : Text) : weight (entries f text) = f.size := by
  induction f with
  | nil => rfl
  | node key ends below next _ ihnext =>
    have hrest : weight (entries next text) = next.size := ihnext
    simp only [entries, Forest.branches, List.map_cons, weight, Trie.size, Forest.size] at *
    omega

theorem flatMap_entries (f : Forest) (text : Text) :
    ((entries f text).flatMap fun (node, text) => node.wordsBehind text) =
      f.words text.reverse := by
  induction f with
  | nil => rfl
  | node key ends below next _ ihnext =>
    have hrest : ((entries next text).flatMap fun (node, text) => node.wordsBehind text) =
        next.words text.reverse := ihnext
    simp only [entries, Forest.branches, List.map_cons, List.flatMap_cons, Trie.wordsBehind,
      Forest.words] at *
    simp [hrest]

theorem next?_eq_none_iff : walk.next? = none ↔ walk.stack = [] := by
  unfold next?
  split <;> simp_all

theorem weight_next (h : walk.next? = some next) : weight next.stack + 1 = weight walk.stack := by
  unfold next? at h
  split at h
  · cases h
  · next node text rest hstack =>
    cases h
    have hnode : node.size = node.children.size + 1 := rfl
    simp only [hstack, weight_append, weight_entries, weight]
    omega

theorem outcome_next (h : walk.next? = some next) : next.outcome = walk.outcome := by
  unfold next? at h
  split at h
  · cases h
  · next node text rest hstack =>
    cases h
    have hnode : node.wordsBehind text =
        (if node.ends then [text] else []) ++ node.children.words text.reverse := rfl
    simp only [outcome, hstack, List.flatMap_append, List.flatMap_cons, flatMap_entries, hnode,
      List.append_assoc]

/-- From any state the walk ends with an empty stack, once it has had as many turns as there are
nodes left. -/
theorem turns_eq (walk : Walk) {n : Nat} (hn : weight walk.stack ≤ n) :
    turns Walk.next? n walk = { found := walk.outcome } := by
  have hended : (turns Walk.next? n walk).next? = none := by
    refine turns_ended (fun walk => weight walk.stack) (fun a b hnext => ?_) hn
    have hnext := weight_next hnext
    omega
  have hstack : (turns Walk.next? n walk).stack = [] := next?_eq_none_iff.1 hended
  have hkept : (turns Walk.next? n walk).outcome = walk.outcome :=
    turns_keeps (fun _ _ => outcome_next) n walk
  rw [← hkept, outcome, hstack, List.flatMap_nil, List.append_nil, ← hstack]

theorem weight_below (t : Trie) (start : Text) : weight (below t start).stack ≤ t.size := by
  unfold below
  split
  · exact Nat.zero_le t.size
  · next node hnode =>
    have hsize := Trie.size_below hnode
    simpa [weight] using hsize

theorem outcome_below (t : Trie) (start : Text) :
    (below t start).outcome = t.wordsWithPrefix start := by
  cases hnode : t.below? start with
  | none => simp [below, hnode, outcome, Trie.wordsWithPrefix]
  | some node => simp [below, hnode, outcome, Trie.wordsWithPrefix]

theorem turns_below (t : Trie) (start : Text) {n : Nat} (hn : t.size ≤ n) :
    turns Walk.next? n (below t start) = { found := t.wordsWithPrefix start } := by
  rw [turns_eq _ (Nat.le_trans (weight_below t start) hn), outcome_below]

end Walk

/-! ### Going down while there is one way -/

namespace Trie

variable {t node : Trie} {place further : Trie × Text} {start w : Text} {c : Rune}

/-- How far a descent goes from a node: its text, and behind it what all words below share. -/
def reach (place : Trie × Text) : Text :=
  place.2 ++ if place.1.ends then [] else place.1.children.common

theorem onlyChild?_cases (place : Trie × Text) :
    (onlyChild? place = none ∧ (place.1.ends = true ∨ place.1.children.common = [])) ∨
      ∃ c ends below, place.1 = ⟨false, .node c ends below .nil⟩ ∧
        onlyChild? place = some (⟨ends, below⟩, place.2 ++ [c]) := by
  obtain ⟨⟨ends, children⟩, text⟩ := place
  cases ends with
  | true => exact .inl ⟨rfl, .inl rfl⟩
  | false =>
    cases children with
    | nil => exact .inl ⟨rfl, .inr rfl⟩
    | node c ends below next =>
      cases next with
      | nil => exact .inr ⟨c, ends, below, rfl, rfl⟩
      | node => exact .inl ⟨rfl, .inr rfl⟩

theorem reach_onlyChild (h : onlyChild? place = some further) : reach further = reach place := by
  obtain ⟨hnone, -⟩ | ⟨c, ends, below, hplace, hsome⟩ := onlyChild?_cases place
  · rw [hnone] at h
    cases h
  · rw [hsome] at h
    cases h
    simp [reach, hplace, Forest.common]

theorem reach_of_none (h : onlyChild? place = none) : reach place = place.2 := by
  obtain ⟨-, hends | hcommon⟩ | ⟨c, ends, below, -, hsome⟩ := onlyChild?_cases place
  · simp [reach, hends]
  · simp [reach, hcommon]
  · rw [hsome] at h
    cases h

theorem size_onlyChild (h : onlyChild? place = some further) : further.1.size < place.1.size := by
  obtain ⟨hnone, -⟩ | ⟨c, ends, below, hplace, hsome⟩ := onlyChild?_cases place
  · rw [hnone] at h
    cases h
  · rw [hsome] at h
    cases h
    simp [hplace, size, Forest.size]

theorem turns_onlyChild (place : Trie × Text) {n : Nat} (hn : place.1.size ≤ n) :
    ∃ last, turns onlyChild? n place = (last, reach place) ∧
      onlyChild? (last, reach place) = none := by
  have hended : onlyChild? (turns onlyChild? n place) = none :=
    turns_ended (fun place => place.1.size) (fun _ _ => size_onlyChild) hn
  have hkept : reach (turns onlyChild? n place) = reach place :=
    turns_keeps (fun _ _ => reach_onlyChild) n place
  have htext : (turns onlyChild? n place).2 = reach place :=
    (reach_of_none hended).symm.trans hkept
  refine ⟨(turns onlyChild? n place).1, Prod.ext rfl htext, ?_⟩
  rw [← htext]
  exact hended

theorem longestCommonPrefix_eq_reach (h : t.below? start = some node) :
    t.longestCommonPrefix start = reach (node, start) := by
  rw [longestCommonPrefix_of_some h, reach]
  cases node.ends <;> simp

/-! ### What was inserted -/

theorem Grown.exists_below (h : t.Grown) (hnode : t.below? (c :: start) = some node) :
    ∃ rest, node.contains rest = true := by
  induction start generalizing t c with
  | nil =>
    obtain ⟨child, hchild, hnode⟩ := Option.bind_eq_some_iff.1 hnode
    cases hnode
    exact Forest.Grown.exists_below_child h hchild
  | cons d start ih =>
    obtain ⟨child, hchild, hnode⟩ := Option.bind_eq_some_iff.1 hnode
    exact ih (Forest.Grown.child h hchild) hnode

/-- Every node but the root leads to a word, so there is one below a prefix exactly when some word
has the prefix. -/
theorem Grown.startsWith_iff (h : t.Grown) :
    t.startsWith start = true ↔ start = [] ∨ ∃ w, t.contains w = true ∧ start <+: w := by
  unfold startsWith
  constructor
  · intro hsome
    obtain ⟨node, hnode⟩ := Option.isSome_iff_exists.1 hsome
    cases start with
    | nil => exact .inl rfl
    | cons c start =>
      obtain ⟨rest, hcontains⟩ := h.exists_below hnode
      refine .inr ⟨(c :: start) ++ rest, ?_, List.prefix_append _ rest⟩
      rwa [contains_append, hnode]
  · rintro (rfl | ⟨w, hcontains, rest, rfl⟩)
    · rfl
    · cases hnode : t.below? start with
      | some node => rfl
      | none =>
        rw [contains_append, hnode, Option.getD_none, contains_empty] at hcontains
        cases hcontains

/-- A trie is the set of the words that were inserted, for every question that it answers. The list
of the words with a prefix names each once, and the walk that makes it ends. -/
theorem ofList_exact (words : List Text) :
    let t := ofList words
    (∀ w, t.contains w = true ↔ w ∈ words) ∧ (∀ w, w ∈ t ↔ w ∈ words) ∧
      (∀ start, t.startsWith start = true ↔ start = [] ∨ ∃ w ∈ words, start <+: w) ∧
      ∀ start, (t.wordsWithPrefix start).Nodup ∧
        (∀ w, w ∈ t.wordsWithPrefix start ↔ w ∈ words ∧ start <+: w) ∧
        ∀ n, t.size ≤ n →
          turns Walk.next? n (Walk.below t start) = { found := t.wordsWithPrefix start } := by
  intro t
  have hgrown : t.Grown := grown_ofList words
  have hcontains (w : Text) : t.contains w = true ↔ w ∈ words := contains_ofList words w
  refine ⟨hcontains, hcontains, fun start => ?_, fun start => ?_⟩
  · simp only [hgrown.startsWith_iff, hcontains]
  · refine ⟨hgrown.nodup_wordsWithPrefix start, fun w => ?_, fun n => Walk.turns_below t start⟩
    rw [hgrown.mem_wordsWithPrefix_iff, hcontains]

/-- `longest_common_prefix` is the longest common prefix of the inserted words with the prefix, or
the prefix if there is none. Its loop ends. -/
theorem longestCommonPrefix_exact (words : List Text) (start : Text) :
    let t := ofList words
    let shared := t.longestCommonPrefix start
    ((∃ w ∈ words, start <+: w) →
      start <+: shared ∧ (∀ w ∈ words, start <+: w → shared <+: w) ∧
        (∀ p, (∀ w ∈ words, start <+: w → p <+: w) → p <+: shared) ∧
        ∀ w ∈ words, start <+: w → w <+: shared → w = shared) ∧
      ((¬∃ w ∈ words, start <+: w) → shared = start) ∧
      ∀ node, t.below? start = some node → ∀ n, t.size ≤ n →
        ∃ last, turns onlyChild? n (node, start) = (last, shared) ∧
          onlyChild? (last, shared) = none := by
  intro t shared
  have hgrown : t.Grown := grown_ofList words
  have hlisted (w : Text) : w ∈ t.wordsWithPrefix start ↔ w ∈ words ∧ start <+: w := by
    rw [hgrown.mem_wordsWithPrefix_iff, contains_ofList]
  have hshared {w : Text} (hw : w ∈ words) (hstart : start <+: w) : shared <+: w :=
    hgrown.longestCommonPrefix_shared ((hlisted w).2 ⟨hw, hstart⟩)
  refine ⟨?_, ?_, ?_⟩
  · rintro ⟨v, hv, hstart⟩
    have hne : t.wordsWithPrefix start ≠ [] := List.ne_nil_of_mem ((hlisted v).2 ⟨hv, hstart⟩)
    have hlongest (p : Text) (hp : ∀ w ∈ words, start <+: w → p <+: w) : p <+: shared := by
      refine hgrown.prefix_longestCommonPrefix hne fun w hw => ?_
      obtain ⟨hw, hstart⟩ := (hlisted w).1 hw
      exact hp w hw hstart
    refine ⟨hlongest start fun _ _ => id, fun w => hshared, hlongest, fun w hw hstart hle => ?_⟩
    exact hle.eq_of_length_le (hshared hw hstart).length_le
  · intro hnone
    cases hnode : t.below? start with
    | none => simp [shared, longestCommonPrefix, hnode]
    | some node =>
      have hstarts : t.startsWith start = true := by simp [startsWith, hnode]
      rcases hgrown.startsWith_iff.1 hstarts with rfl | ⟨w, hcontains, hstart⟩
      · -- nothing was inserted at all
        have hwords : words = [] :=
          List.eq_nil_iff_forall_not_mem.2 fun w hw => hnone ⟨w, hw, List.nil_prefix⟩
        subst hwords
        rfl
      · exact absurd ⟨w, (contains_ofList words w).1 hcontains, hstart⟩ hnone
  · intro node hnode n hn
    have hreach : shared = reach (node, start) := longestCommonPrefix_eq_reach hnode
    rw [hreach]
    exact turns_onlyChild (node, start) (Nat.le_trans (size_below hnode) hn)

/-- Words below `ex`, one of which is complete where the others go on. -/
theorem longestCommonPrefix_exact_stops :
    let words := ["export".runes, "exit".runes, "exiting".runes, "echo".runes]
    (ofList words).longestCommonPrefix "exi".runes = "exit".runes ∧
      ("exit".runes : Text) <+: "exiting".runes := by
  intro words
  have hsome : ∃ w ∈ words, "exi".runes <+: w := ⟨"exit".runes, by decide, by decide⟩
  obtain ⟨-, hshared, -, -⟩ := (longestCommonPrefix_exact words "exi".runes).1 hsome
  have hlists : (ofList words).longestCommonPrefix "exi".runes = "exit".runes := by cbv
  refine ⟨hlists, ?_⟩
  rw [← hlists]
  exact hshared "exiting".runes (by decide) (by decide)

end Trie
end PipelineShell
