import PipelineShell.Completion.Trie

/-!
# The words of a trie

`ofList words` contains the members of `words`. The inductions follow the characters of the inserted
word.
-/

namespace PipelineShell

/-- Below a character stands what stood there before with the rest of the word added; the other
children are the same. -/
theorem Forest.child?_insert (c d : Rune) (rest : Text) (f : Forest) :
    (f.insert c rest).child? d =
      if d = c then some (((f.child? c).getD {}).insert rest) else f.child? d := by
  induction f with
  | nil =>
    by_cases hd : d = c
    · rw [if_pos hd, hd]
      cases rest <;> simp [Forest.insert, path, child?, Trie.insert]
    · rw [if_neg hd]
      cases rest <;> simp [Forest.insert, path, child?, Ne.symm hd]
  | node key ends below next _ ihnext =>
    by_cases hkey : key = c
    · by_cases hd : d = c
      · cases rest <;> simp [Forest.insert, child?, Trie.insert, hkey, hd]
      · have hne : c ≠ d := Ne.symm hd
        cases rest <;> simp [Forest.insert, child?, hkey, hd, hne]
    · -- the word goes to a later child, and this one keeps its character
      by_cases hd : d = key
      · have hdc : d ≠ c := hd ▸ hkey
        simp [Forest.insert, child?, hkey, hd]
      · have hne : key ≠ d := Ne.symm hd
        simp only [Forest.insert, child?, hkey, hne, ↓reduceIte, ihnext]

namespace Trie

@[simp] theorem contains_nil (t : Trie) : t.contains [] = t.ends := rfl

theorem contains_empty (word : Text) : ({} : Trie).contains word = false := by
  cases word <;> rfl

theorem contains_cons (t : Trie) (c : Rune) (rest : Text) :
    t.contains (c :: rest) = ((t.children.child? c).getD {}).contains rest := by
  cases hc : t.children.child? c with
  | some child => simp [contains, below?, hc]
  | none =>
    rw [Option.getD_none, contains_empty]
    simp [contains, below?, hc]

theorem insert_cons (t : Trie) (c : Rune) (rest : Text) :
    t.insert (c :: rest) = { t with children := t.children.insert c rest } := rfl

theorem contains_insert (t : Trie) (word other : Text) :
    (t.insert word).contains other = true ↔ other = word ∨ t.contains other = true := by
  induction word generalizing t other with
  | nil =>
    cases other with
    | nil => simp [insert]
    | cons d others => simp [insert, contains_cons]
  | cons c rest ih =>
    cases other with
    | nil => simp [insert]
    | cons d others =>
      rw [insert_cons, contains_cons, contains_cons, Forest.child?_insert, List.cons.injEq]
      by_cases hd : d = c
      · rw [if_pos hd, Option.getD_some, ih, hd]
        simp
      · rw [if_neg hd]
        simp [hd]

theorem contains_foldl_insert (words : List Text) (t : Trie) (word : Text) :
    (words.foldl insert t).contains word = true ↔ word ∈ words ∨ t.contains word = true := by
  induction words generalizing t with
  | nil => simp
  | cons first rest ih =>
    rw [List.foldl_cons, ih, contains_insert, List.mem_cons, or_left_comm, or_assoc]

theorem contains_ofList (words : List Text) (word : Text) :
    (ofList words).contains word = true ↔ word ∈ words := by
  rw [ofList, contains_foldl_insert, contains_empty]
  simp

end Trie
end PipelineShell
