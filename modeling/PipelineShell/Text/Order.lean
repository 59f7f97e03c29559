import PipelineShell.Text.Basic

/-!
# Order of texts

The lexicographic order by code points.
-/

namespace PipelineShell

namespace Rune

instance : LT Rune := ⟨fun a b => a.toNat < b.toNat⟩

instance (a b : Rune) : Decidable (a < b) := inferInstanceAs (Decidable (a.toNat < b.toNat))

theorem toNat_injective {a b : Rune} (h : a.toNat = b.toNat) : a = b := by
  have hnot (c : Char) (half : Surrogate) : c.toNat ≠ 0xd800 + half.1 := by
    have hvalid : c.toNat < 0xd800 ∨ 0xdfff < c.toNat ∧ c.toNat < 0x110000 := c.valid
    have := half.2
    omega
  cases a with
  | char c =>
    cases b with
    | char d => exact congrArg char (Char.toNat_inj.1 h)
    | lone half => exact absurd h (hnot c half)
  | lone half =>
    cases b with
    | char d => exact absurd h.symm (hnot d half)
    | lone other => exact congrArg lone (Fin.ext (Nat.add_left_cancel h))

end Rune

namespace Text

def le : Text → Text → Bool
  | [], _ => true
  | _ :: _, [] => false
  | a :: s, b :: t => a < b || (a = b && le s t)

def sort (texts : List Text) : List Text := texts.mergeSort le

theorem le_refl (s : Text) : le s s = true := by
  induction s with
  | nil => rfl
  | cons a s ih => simp [le, ih]

theorem le_total (s t : Text) : (le s t || le t s) = true := by
  induction s generalizing t with
  | nil => simp [le]
  | cons a s ih =>
    cases t with
    | nil => simp [le]
    | cons b t =>
      by_cases hab : a < b
      · simp [le, hab]
      · by_cases hba : b < a
        · simp [le, hba]
        · have h : a = b :=
            Rune.toNat_injective (Nat.le_antisymm (Nat.not_lt.1 hba) (Nat.not_lt.1 hab))
          have hself : ¬b < b := Nat.lt_irrefl _
          simpa [le, h, hself] using ih t

theorem le_trans (s t u : Text) (hst : le s t = true) (htu : le t u = true) :
    le s u = true := by
  induction s generalizing t u with
  | nil => simp [le]
  | cons a s ih =>
    cases t with
    | nil => simp [le] at hst
    | cons b t =>
      cases u with
      | nil => simp [le] at htu
      | cons c u =>
        simp only [le, Bool.or_eq_true, decide_eq_true_eq, Bool.and_eq_true] at hst htu ⊢
        rcases hst with h | ⟨rfl, h⟩
        · rcases htu with k | ⟨rfl, k⟩
          · exact .inl (Nat.lt_trans h k)
          · exact .inl h
        · rcases htu with k | ⟨rfl, k⟩
          · exact .inl k
          · exact .inr ⟨rfl, ih t u h k⟩

theorem mem_sort {t : Text} {texts : List Text} : t ∈ sort texts ↔ t ∈ texts :=
  List.mem_mergeSort

end Text
end PipelineShell
