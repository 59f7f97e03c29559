import PipelineShell.Text.Basic

/-!
# Common prefixes

The prefixes of the longest common prefix are the common prefixes.
-/

namespace PipelineShell.Text

/-- The longest common prefix of two texts. -/
def shared : Text → Text → Text
  | a :: s, b :: t => if a = b then a :: shared s t else []
  | _, _ => []

/-- The longest common prefix of all texts; of no text it is empty. -/
def sharedByAll : List Text → Text
  | [] => []
  | [t] => t
  | t :: u :: rest => shared t (sharedByAll (u :: rest))

theorem prefix_shared_iff (p s t : Text) : p <+: shared s t ↔ p <+: s ∧ p <+: t := by
  induction s generalizing p t with
  | nil =>
    have hnil : p <+: [] → p <+: t := fun h => List.prefix_nil.1 h ▸ List.nil_prefix
    simpa [shared] using hnil
  | cons a s ih =>
    cases t with
    | nil =>
      have hnil : p <+: [] → p <+: a :: s := fun h => List.prefix_nil.1 h ▸ List.nil_prefix
      simpa [shared] using hnil
    | cons b t =>
      cases p with
      | nil => simp
      | cons c p =>
        by_cases hab : a = b
        · subst hab
          have hcons : shared (a :: s) (a :: t) = a :: shared s t := by simp [shared]
          rw [hcons, List.cons_prefix_cons, List.cons_prefix_cons, List.cons_prefix_cons, ih]
          exact and_and_left
        · have hcut : shared (a :: s) (b :: t) = [] := by simp [shared, hab]
          rw [hcut, List.cons_prefix_cons, List.cons_prefix_cons, List.prefix_nil]
          constructor
          · intro h
            cases h
          · rintro ⟨⟨ha, -⟩, hb, -⟩
            exact absurd (ha.symm.trans hb) hab

theorem prefix_sharedByAll_iff (p : Text) {texts : List Text} (hne : texts ≠ []) :
    p <+: sharedByAll texts ↔ ∀ t ∈ texts, p <+: t := by
  induction texts with
  | nil => exact absurd rfl hne
  | cons t rest ih =>
    cases rest with
    | nil => simp [sharedByAll]
    | cons u rest =>
      have hrest := ih (List.cons_ne_nil u rest)
      rw [sharedByAll, prefix_shared_iff, hrest]
      exact List.forall_mem_cons.symm

/-- A text with the prefixes that all the texts have in common is their longest common prefix. -/
theorem eq_sharedByAll {v : Text} {texts : List Text} (hne : texts ≠ [])
    (h : ∀ p, p <+: v ↔ ∀ t ∈ texts, p <+: t) : v = sharedByAll texts := by
  have hsame (p : Text) : p <+: v ↔ p <+: sharedByAll texts :=
    (h p).trans (prefix_sharedByAll_iff p hne).symm
  have hto : v <+: sharedByAll texts := (hsame v).1 List.prefix_rfl
  have hback : sharedByAll texts <+: v := (hsame (sharedByAll texts)).2 List.prefix_rfl
  exact hto.eq_of_length_le hback.length_le

/-! ### Where two texts part -/

theorem shared_comm (s t : Text) : shared s t = shared t s := by
  have hswap (u v : Text) : shared u v <+: shared v u :=
    (prefix_shared_iff _ v u).2 ((prefix_shared_iff _ u v).1 List.prefix_rfl).symm
  exact (hswap s t).eq_of_length_le (hswap t s).length_le

theorem eq_of_snoc_prefix {c t : Text} {a b : Rune} (ha : c ++ [a] <+: t) (hb : c ++ [b] <+: t) :
    a = b := by
  have hlength : (c ++ [a]).length = (c ++ [b]).length := by simp
  have hsame : c ++ [a] <+: c ++ [b] := List.prefix_of_prefix_length_le ha hb (Nat.le_of_eq hlength)
  have hlast : [a] = [b] := List.append_cancel_left (hsame.eq_of_length hlength)
  exact List.singleton_inj.1 hlast

theorem not_snoc_shared_prefix {s t : Text} {a : Rune} (hs : shared s t ++ [a] <+: s) :
    ¬shared s t ++ [a] <+: t := by
  intro ht
  have hlonger : shared s t ++ [a] <+: shared s t := (prefix_shared_iff _ s t).2 ⟨hs, ht⟩
  have hlength := hlonger.length_le
  simp only [List.length_append, List.length_singleton] at hlength
  omega

theorem shared_of_snoc_prefix {c s t : Text} {a b : Rune} (hne : a ≠ b) (hs : c ++ [a] <+: s)
    (ht : c ++ [b] <+: t) : shared s t = c := by
  have hcs : c <+: s := (List.prefix_append c [a]).trans hs
  have hct : c <+: t := (List.prefix_append c [b]).trans ht
  obtain ⟨rest, hrest⟩ := (prefix_shared_iff c s t).2 ⟨hcs, hct⟩
  cases rest with
  | nil => rw [← hrest, List.append_nil]
  | cons d rest =>
    -- a further shared character would be both of those that follow
    have hsnoc : c ++ [d] <+: shared s t := ⟨rest, by rw [← hrest]; simp⟩
    obtain ⟨hds, hdt⟩ := (prefix_shared_iff _ s t).1 hsnoc
    have had : d = a := eq_of_snoc_prefix hds hs
    have hbd : d = b := eq_of_snoc_prefix hdt ht
    exact absurd (had.symm.trans hbd) hne

end PipelineShell.Text
