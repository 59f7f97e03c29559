import PipelineShell.Proofs.Completion.Trie
import PipelineShell.Proofs.Text.Prefix

/-!
# What a trie lists

In a trie made by `insert` no two children share a character and every child leads to a word. So
`words_with_prefix` has no duplicates, and `longest_common_prefix` is the common prefix of what it
lists.
-/

namespace PipelineShell

namespace Forest

/-- The forest has the word `c :: rest`. -/
def Holds (f : Forest) (c : Rune) (rest : Text) : Prop :=
  ((f.child? c).getD {}).contains rest = true

/-- No character has two children, and every child leads to a word. -/
inductive Grown : Forest → Prop
  | nil : Grown .nil
  | node {key : Rune} {ends : Bool} {below next : Forest} (fresh : next.child? key = none)
      (leads : ends = false → below ≠ .nil) (hbelow : Grown below) (hnext : Grown next) :
      Grown (.node key ends below next)

variable {f below next : Forest} {key c : Rune} {ends : Bool} {rest before w : Text}

theorem not_holds_of_none (h : f.child? c = none) : ¬f.Holds c rest := by
  unfold Holds
  rw [h, Option.getD_none, Trie.contains_empty]
  exact Bool.false_ne_true

theorem not_holds_nil : ¬nil.Holds c rest := not_holds_of_none rfl

theorem holds_first_nil : (node key ends below next).Holds key [] ↔ ends = true := by
  simp [Holds, child?]

theorem holds_first_cons :
    (node key ends below next).Holds key (c :: rest) ↔ below.Holds c rest := by
  simp [Holds, child?, Trie.contains_cons]

theorem holds_later (hc : c ≠ key) :
    (node key ends below next).Holds c rest ↔ next.Holds c rest := by
  simp [Holds, child?, Ne.symm hc]

/-! ### Growing -/

theorem grown_path (c : Rune) (rest : Text) : (path c rest).Grown := by
  induction rest generalizing c with
  | nil => exact .node rfl (by decide) .nil .nil
  | cons d rest ih =>
    refine .node rfl (fun _ => ?_) (ih d) .nil
    cases rest <;> exact Forest.noConfusion

theorem insert_ne_nil (c : Rune) (rest : Text) (f : Forest) : f.insert c rest ≠ nil := by
  cases f with
  | nil => cases rest <;> exact Forest.noConfusion
  | node key ends below next =>
    unfold insert
    split
    · cases rest <;> exact Forest.noConfusion
    · exact Forest.noConfusion

theorem Grown.insert (h : f.Grown) (c : Rune) (rest : Text) : (f.insert c rest).Grown := by
  induction h generalizing c rest with
  | nil => exact grown_path c rest
  | node fresh leads hbelow hnext ihbelow ihnext =>
    rename_i key ends below next
    unfold Forest.insert
    split
    · cases rest with
      | nil => exact .node fresh (fun h => absurd h (by decide)) hbelow hnext
      | cons d rest =>
        exact .node fresh (fun _ => insert_ne_nil d rest below) (ihbelow d rest) hnext
    · next hkey =>
      refine .node ?_ leads hbelow (ihnext c rest)
      rw [child?_insert, if_neg hkey]
      exact fresh

theorem Grown.exists_holds (h : f.Grown) (hne : f ≠ .nil) : ∃ c rest, f.Holds c rest := by
  induction h with
  | nil => exact absurd rfl hne
  | node fresh leads hbelow hnext ihbelow ihnext =>
    rename_i key ends below next
    cases ends with
    | true => exact ⟨key, [], holds_first_nil.2 rfl⟩
    | false =>
      obtain ⟨c, rest, hholds⟩ := ihbelow (leads rfl)
      exact ⟨key, c :: rest, holds_first_cons.2 hholds⟩

theorem Grown.exists_holds_first (h : (Forest.node key ends below next).Grown) :
    ∃ rest, (Forest.node key ends below next).Holds key rest := by
  cases h with
  | node fresh leads hbelow hnext =>
    cases ends with
    | true => exact ⟨[], holds_first_nil.2 rfl⟩
    | false =>
      obtain ⟨c, rest, hholds⟩ := hbelow.exists_holds (leads rfl)
      exact ⟨c :: rest, holds_first_cons.2 hholds⟩

theorem Grown.exists_below_child {child : Trie} (h : f.Grown) (hc : f.child? c = some child) :
    ∃ rest, child.contains rest = true := by
  induction h with
  | nil => cases hc
  | node fresh leads hbelow hnext ihbelow ihnext =>
    rename_i key ends below next
    unfold child? at hc
    split at hc
    · obtain ⟨rest, hholds⟩ := (Grown.node fresh leads hbelow hnext).exists_holds_first
      have hfirst : (Forest.node key ends below next).child? key = some ⟨ends, below⟩ := by
        simp [child?]
      unfold Holds at hholds
      rw [hfirst, Option.getD_some] at hholds
      cases hc
      exact ⟨rest, hholds⟩
    · exact ihnext hc

theorem Grown.child {node : Trie} (h : f.Grown) (hc : f.child? c = some node) :
    node.children.Grown := by
  induction h with
  | nil => cases hc
  | node fresh leads hbelow hnext ihbelow ihnext =>
    unfold child? at hc
    split at hc
    · cases hc
      exact hbelow
    · exact ihnext hc

/-! ### The words -/

theorem mem_words_node :
    w ∈ (node key ends below next).words before ↔
      (ends = true ∧ w = (key :: before).reverse) ∨ w ∈ below.words (key :: before) ∨
        w ∈ next.words before := by
  simp only [words, List.mem_append]
  cases ends <;> simp

theorem Grown.mem_words_iff (h : f.Grown) :
    w ∈ f.words before ↔ ∃ c rest, f.Holds c rest ∧ w = before.reverse ++ c :: rest := by
  induction h generalizing before with
  | nil =>
    refine iff_of_false List.not_mem_nil ?_
    rintro ⟨c, rest, hholds, -⟩
    exact not_holds_nil hholds
  | node fresh leads hbelow hnext ihbelow ihnext =>
    rename_i key ends below next
    rw [mem_words_node, ihbelow, ihnext]
    constructor
    · rintro (⟨hends, rfl⟩ | ⟨c, rest, hholds, rfl⟩ | ⟨c, rest, hholds, rfl⟩)
      · exact ⟨key, [], holds_first_nil.2 hends, List.reverse_cons⟩
      · exact ⟨key, c :: rest, holds_first_cons.2 hholds, by simp⟩
      · have hc : c ≠ key := by
          rintro rfl
          exact not_holds_of_none fresh hholds
        exact ⟨c, rest, (holds_later hc).2 hholds, rfl⟩
    · rintro ⟨c, rest, hholds, rfl⟩
      by_cases hc : c = key
      · subst hc
        cases rest with
        | nil => exact .inl ⟨holds_first_nil.1 hholds, List.reverse_cons.symm⟩
        | cons d rest => exact .inr (.inl ⟨d, rest, holds_first_cons.1 hholds, by simp⟩)
      · exact .inr (.inr ⟨c, rest, (holds_later hc).1 hholds, rfl⟩)

theorem Grown.nodup_words (h : f.Grown) (before : Text) : (f.words before).Nodup := by
  induction h generalizing before with
  | nil => exact List.nodup_nil
  | node fresh leads hbelow hnext ihbelow ihnext =>
    rename_i key ends below next
    have hlower : (below.words (key :: before) ++ next.words before).Nodup := by
      refine List.nodup_append.2 ⟨ihbelow (key :: before), ihnext before, ?_⟩
      rintro v hv w hw rfl
      obtain ⟨c, rest, -, hfirst⟩ := hbelow.mem_words_iff.1 hv
      obtain ⟨d, more, hholds, hsecond⟩ := hnext.mem_words_iff.1 hw
      -- both go on with the same character, but only the first child has this one
      have hsame : key = d := by
        rw [hfirst] at hsecond
        simp only [List.reverse_cons, List.append_assoc, List.append_cancel_left_eq,
          List.singleton_append, List.cons.injEq] at hsecond
        exact hsecond.1
      exact not_holds_of_none fresh (hsame ▸ hholds)
    cases ends with
    | false => exact hlower
    | true =>
      show ((key :: before).reverse :: (below.words (key :: before) ++ next.words before)).Nodup
      refine List.nodup_cons.2 ⟨?_, hlower⟩
      intro hmem
      rcases List.mem_append.1 hmem with hv | hv
      · obtain ⟨c, rest, -, hword⟩ := hbelow.mem_words_iff.1 hv
        simp at hword
      · obtain ⟨d, more, hholds, hword⟩ := hnext.mem_words_iff.1 hv
        have hsame : key = d := by
          simp only [List.reverse_cons, List.append_cancel_left_eq, List.cons.injEq] at hword
          exact hword.1
        exact not_holds_of_none fresh (hsame ▸ hholds)

/-! ### What the words share -/

theorem Holds.common (h : f.Holds c rest) : f.common <+: c :: rest := by
  induction f generalizing c rest with
  | nil => exact absurd h not_holds_nil
  | node key ends below next ihbelow _ =>
    cases next with
    | node => exact List.nil_prefix
    | nil =>
      have hc : c = key :=
        Decidable.byContradiction fun hne => not_holds_nil ((holds_later hne).1 h)
      subst hc
      cases rest with
      | nil =>
        have hends : ends = true := holds_first_nil.1 h
        simp [common, hends]
      | cons d rest =>
        have hlower : below.common <+: d :: rest := ihbelow (holds_first_cons.1 h)
        unfold common
        split
        · exact List.cons_prefix_cons.2 ⟨rfl, List.nil_prefix⟩
        · exact List.cons_prefix_cons.2 ⟨rfl, hlower⟩

theorem Grown.prefix_common (h : f.Grown) (hne : f ≠ .nil) {p : Text}
    (hp : ∀ c rest, f.Holds c rest → p <+: c :: rest) : p <+: f.common := by
  induction h generalizing p with
  | nil => exact absurd rfl hne
  | node fresh leads hbelow hnext ihbelow ihnext =>
    rename_i key ends below next
    obtain ⟨rest, hfirst⟩ := (Grown.node fresh leads hbelow hnext).exists_holds_first
    cases p with
    | nil => exact List.nil_prefix
    | cons a p =>
      obtain ⟨rfl, -⟩ := List.cons_prefix_cons.1 (hp key rest hfirst)
      cases next with
      | node key' ends' below' next' =>
        -- a word of the next child starts with another character
        obtain ⟨more, hsecond⟩ := hnext.exists_holds_first
        have hother : key' ≠ a := by
          rintro rfl
          exact not_holds_of_none fresh hsecond
        have hstarts := hp key' more ((holds_later hother).2 hsecond)
        exact absurd (List.cons_prefix_cons.1 hstarts).1.symm hother
      | nil =>
        unfold common
        refine List.cons_prefix_cons.2 ⟨rfl, ?_⟩
        cases ends with
        | true =>
          have hstarts := hp a [] (holds_first_nil.2 rfl)
          exact (List.cons_prefix_cons.1 hstarts).2
        | false =>
          refine ihbelow (leads rfl) ?_
          intro c rest hholds
          have hstarts := hp a (c :: rest) (holds_first_cons.2 hholds)
          exact (List.cons_prefix_cons.1 hstarts).2

end Forest

namespace Trie

/-- The children of the root have grown by insertions. -/
def Grown (t : Trie) : Prop := t.children.Grown

variable {t node : Trie} {start rest word : Text}

theorem grown_empty : ({} : Trie).Grown := Forest.Grown.nil

theorem Grown.insert (h : t.Grown) (word : Text) : (t.insert word).Grown := by
  cases word with
  | nil => exact h
  | cons c rest => exact Forest.Grown.insert h c rest

theorem grown_foldl_insert (words : List Text) (h : t.Grown) : (words.foldl insert t).Grown := by
  induction words generalizing t with
  | nil => exact h
  | cons word words ih => exact ih (h.insert word)

theorem grown_ofList (words : List Text) : (ofList words).Grown :=
  grown_foldl_insert words grown_empty

theorem Grown.below (h : t.Grown) (hnode : t.below? start = some node) : node.Grown := by
  induction start generalizing t with
  | nil =>
    cases hnode
    exact h
  | cons c start ih =>
    obtain ⟨child, hchild, hnode⟩ := Option.bind_eq_some_iff.1 hnode
    exact ih (Forest.Grown.child h hchild) hnode

theorem contains_append (t : Trie) (start rest : Text) :
    t.contains (start ++ rest) = ((t.below? start).getD {}).contains rest := by
  induction start generalizing t with
  | nil => rfl
  | cons c start ih =>
    rw [List.cons_append, contains_cons, ih]
    cases hc : t.children.child? c with
    | none =>
      have hnone : ({} : Trie).below? start = none ∨ start = [] := by
        cases start with
        | nil => exact .inr rfl
        | cons d start => exact .inl rfl
      rcases hnone with hnone | rfl
      · simp [below?, hc, hnone]
      · simp [below?, hc]
    | some child => simp [below?, hc]

/-! ### The words with a prefix -/

theorem wordsWithPrefix_of_none (h : t.below? start = none) : t.wordsWithPrefix start = [] := by
  simp only [wordsWithPrefix, h]

theorem wordsWithPrefix_of_some (h : t.below? start = some node) :
    t.wordsWithPrefix start = node.wordsBehind start := by
  simp only [wordsWithPrefix, h]

theorem longestCommonPrefix_of_some (h : t.below? start = some node) :
    t.longestCommonPrefix start =
      if node.ends = true then start else start ++ node.children.common := by
  simp only [longestCommonPrefix, h]

theorem Grown.mem_wordsBehind_iff (h : node.Grown) :
    word ∈ node.wordsBehind start ↔ ∃ rest, node.contains rest = true ∧ word = start ++ rest := by
  have hlower : word ∈ node.children.words start.reverse ↔
      ∃ c rest, node.children.Holds c rest ∧ word = start.reverse.reverse ++ c :: rest :=
    Forest.Grown.mem_words_iff h
  rw [List.reverse_reverse] at hlower
  unfold wordsBehind
  rw [List.mem_append, hlower]
  constructor
  · rintro (hmem | ⟨c, rest, hholds, rfl⟩)
    · split at hmem
      · next hends => exact ⟨[], hends, by simpa using hmem⟩
      · cases hmem
    · exact ⟨c :: rest, by rwa [contains_cons], rfl⟩
  · rintro ⟨rest, hcontains, rfl⟩
    cases rest with
    | nil =>
      have hends : node.ends = true := hcontains
      exact .inl (by simp [hends])
    | cons c rest =>
      rw [contains_cons] at hcontains
      exact .inr ⟨c, rest, hcontains, rfl⟩

theorem Grown.nodup_wordsBehind (h : node.Grown) (start : Text) :
    (node.wordsBehind start).Nodup := by
  have hlower : (node.children.words start.reverse).Nodup := Forest.Grown.nodup_words h _
  unfold wordsBehind
  split
  · refine List.nodup_cons.2 ⟨?_, hlower⟩
    intro hmem
    obtain ⟨c, rest, -, hword⟩ := (Forest.Grown.mem_words_iff h).1 hmem
    simp at hword
  · exact hlower

theorem Grown.mem_wordsWithPrefix_iff (h : t.Grown) :
    word ∈ t.wordsWithPrefix start ↔ t.contains word = true ∧ start <+: word := by
  cases hnode : t.below? start with
  | none =>
    rw [wordsWithPrefix_of_none hnode]
    refine iff_of_false List.not_mem_nil ?_
    rintro ⟨hcontains, rest, rfl⟩
    rw [contains_append, hnode, Option.getD_none, contains_empty] at hcontains
    cases hcontains
  | some node =>
    rw [wordsWithPrefix_of_some hnode, (h.below hnode).mem_wordsBehind_iff]
    constructor
    · rintro ⟨rest, hcontains, rfl⟩
      rw [contains_append, hnode]
      exact ⟨hcontains, List.prefix_append start rest⟩
    · rintro ⟨hcontains, rest, rfl⟩
      rw [contains_append, hnode] at hcontains
      exact ⟨rest, hcontains, rfl⟩

theorem Grown.nodup_wordsWithPrefix (h : t.Grown) (start : Text) :
    (t.wordsWithPrefix start).Nodup := by
  cases hnode : t.below? start with
  | none =>
    rw [wordsWithPrefix_of_none hnode]
    exact List.nodup_nil
  | some node =>
    rw [wordsWithPrefix_of_some hnode]
    exact (h.below hnode).nodup_wordsBehind start

/-! ### What they share -/

theorem contains_of_not_ends (hends : node.ends = false) (hcontains : node.contains rest = true) :
    ∃ c more, rest = c :: more ∧ node.children.Holds c more := by
  cases rest with
  | nil =>
    rw [contains_nil, hends] at hcontains
    cases hcontains
  | cons c more =>
    rw [contains_cons] at hcontains
    exact ⟨c, more, rfl, hcontains⟩

theorem Grown.longestCommonPrefix_shared (h : t.Grown) (hword : word ∈ t.wordsWithPrefix start) :
    t.longestCommonPrefix start <+: word := by
  cases hnode : t.below? start with
  | none =>
    rw [wordsWithPrefix_of_none hnode] at hword
    cases hword
  | some node =>
    rw [wordsWithPrefix_of_some hnode] at hword
    obtain ⟨rest, hcontains, rfl⟩ := (h.below hnode).mem_wordsBehind_iff.1 hword
    rw [longestCommonPrefix_of_some hnode]
    split
    · exact List.prefix_append start rest
    · next hends =>
      obtain ⟨c, more, rfl, hholds⟩ := contains_of_not_ends (Bool.not_eq_true _ ▸ hends) hcontains
      exact (List.prefix_append_right_inj start).2 (Forest.Holds.common hholds)

theorem Grown.prefix_longestCommonPrefix (h : t.Grown) (hne : t.wordsWithPrefix start ≠ [])
    {p : Text} (hp : ∀ word ∈ t.wordsWithPrefix start, p <+: word) :
    p <+: t.longestCommonPrefix start := by
  cases hnode : t.below? start with
  | none => exact absurd (wordsWithPrefix_of_none hnode) hne
  | some node =>
    rw [wordsWithPrefix_of_some hnode] at hne hp
    have hgrown := h.below hnode
    have hbelow {rest : Text} (hcontains : node.contains rest = true) : p <+: start ++ rest :=
      hp _ (hgrown.mem_wordsBehind_iff.2 ⟨rest, hcontains, rfl⟩)
    rw [longestCommonPrefix_of_some hnode]
    split
    · next hends =>
      have hshort : p <+: start ++ [] := hbelow hends
      rwa [List.append_nil] at hshort
    · next hends =>
      obtain ⟨word, hword⟩ := List.exists_mem_of_ne_nil _ hne
      obtain ⟨rest, hcontains, rfl⟩ := hgrown.mem_wordsBehind_iff.1 hword
      rcases List.prefix_or_prefix_of_prefix (hbelow hcontains) (List.prefix_append start rest) with
        hshort | ⟨p, rfl⟩
      · exact hshort.trans (List.prefix_append ..)
      · -- what goes on behind `start` is shared by all words of the children
        obtain ⟨c, more, rfl, hholds⟩ := contains_of_not_ends (Bool.not_eq_true _ ▸ hends) hcontains
        have hchildren : node.children ≠ .nil := by
          intro hnil
          rw [hnil] at hholds
          exact Forest.not_holds_nil hholds
        refine (List.prefix_append_right_inj start).2 (hgrown.prefix_common hchildren ?_)
        intro d rest hrest
        have hcontains : node.contains (d :: rest) = true := by rwa [contains_cons]
        exact (List.prefix_append_right_inj start).1 (hbelow hcontains)

/-- Going down while there is only one way leads to the longest common prefix of the words. -/
theorem Grown.longestCommonPrefix_eq (h : t.Grown) (hne : t.wordsWithPrefix start ≠ []) :
    t.longestCommonPrefix start = Text.sharedByAll (t.wordsWithPrefix start) := by
  refine Text.eq_sharedByAll hne fun p => ⟨?_, h.prefix_longestCommonPrefix hne⟩
  intro hp word hword
  exact hp.trans (h.longestCommonPrefix_shared hword)

end Trie
end PipelineShell
