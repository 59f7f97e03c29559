import PipelineShell.Text.Order

/-!
# Sorted texts

A list of texts has one sorted form, strictly increasing if it has no duplicates.
-/

namespace PipelineShell.Text

/-- The first text comes before the second in a dictionary that goes by code points. -/
abbrev Before (s t : Text) : Prop := List.Lex (· < ·) s t

theorem le_iff (s t : Text) : le s t = true ↔ s = t ∨ Before s t := by
  induction s generalizing t with
  | nil =>
    cases t with
    | nil => simp [le]
    | cons b t => simp [le]
  | cons a s ih =>
    cases t with
    | nil =>
      have hnot : ¬Before (a :: s) [] := by
        intro h
        cases h
      simp [le, hnot]
    | cons b t =>
      have hlex : Before (a :: s) (b :: t) ↔ a < b ∨ a = b ∧ Before s t := List.cons_lex_cons_iff
      simp only [le, Bool.or_eq_true, Bool.and_eq_true, decide_eq_true_eq, ih, List.cons.injEq,
        hlex]
      constructor
      · rintro (hab | ⟨hab, hst | hst⟩)
        · exact .inr (.inl hab)
        · exact .inl ⟨hab, hst⟩
        · exact .inr (.inr ⟨hab, hst⟩)
      · rintro (⟨hab, hst⟩ | hab | ⟨hab, hst⟩)
        · exact .inr ⟨hab, .inl hst⟩
        · exact .inl hab
        · exact .inr ⟨hab, .inr hst⟩

theorem le_antisymm {s t : Text} (hst : le s t = true) (hts : le t s = true) : s = t := by
  induction s generalizing t with
  | nil =>
    cases t with
    | nil => rfl
    | cons b t => cases hts
  | cons a s ih =>
    cases t with
    | nil => cases hst
    | cons b t =>
      simp only [le, Bool.or_eq_true, Bool.and_eq_true, decide_eq_true_eq] at hst hts
      rcases hst with hab | ⟨rfl, hst⟩
      · rcases hts with hba | ⟨hba, -⟩
        · exact absurd (Nat.lt_trans hab hba) (Nat.lt_irrefl a.toNat)
        · exact absurd (hba ▸ hab : a < a) (Nat.lt_irrefl a.toNat)
      · rcases hts with haa | ⟨-, hts⟩
        · exact absurd haa (Nat.lt_irrefl a.toNat)
        · rw [ih hst hts]

theorem pairwise_sort (texts : List Text) :
    (sort texts).Pairwise fun s t => le s t = true :=
  List.pairwise_mergeSort le_trans le_total texts

theorem sort_perm (texts : List Text) : (sort texts).Perm texts := List.mergeSort_perm texts le

theorem sort_eq_of_perm {texts others : List Text} (h : texts.Perm others) :
    sort texts = sort others := by
  have hperm : (sort texts).Perm (sort others) :=
    ((sort_perm texts).trans h).trans (sort_perm others).symm
  refine List.Perm.eq_of_pairwise ?_ (pairwise_sort texts) (pairwise_sort others) hperm
  intro s t _ _ hst hts
  exact le_antisymm hst hts

theorem sort_of_ascending {texts : List Text} (h : texts.Pairwise Before) : sort texts = texts :=
  List.mergeSort_of_pairwise (h.imp fun {s t} hst => (le_iff s t).2 (.inr hst))

/-- No text is in the row twice, so each comes strictly before the next in the sorted form. -/
theorem strictly_sorted {texts : List Text} (h : texts.Nodup) : (sort texts).Pairwise Before := by
  have hnodup : (sort texts).Nodup := (sort_perm texts).nodup_iff.2 h
  refine ((pairwise_sort texts).and hnodup).imp ?_
  rintro s t ⟨hle, hne⟩
  exact ((le_iff s t).1 hle).resolve_left hne

end PipelineShell.Text
