/-!
# Text

A text is a list of code points, surrogates included: a byte that is not UTF-8 is read as one.
-/

namespace PipelineShell

/-- The halves of surrogate pairs, U+D800 to U+DFFF, by their distance from the first. -/
abbrev Surrogate := Fin 0x800

/-- A code point: a character, or half of a surrogate pair, which is none. -/
inductive Rune
  | char (c : Char)
  | lone (half : Surrogate)
  deriving DecidableEq, Repr

instance : Coe Char Rune := ⟨.char⟩

abbrev Text := List Rune

abbrev Chars := List Char

abbrev Bytes := List UInt8

/-- The bytes of all chunks in order; each chunk is put before those behind it, so none is gone
through more than once. -/
def Bytes.ofChunks (chunks : List Bytes) : Bytes :=
  chunks.reverse.foldl (fun behind chunk => chunk ++ behind) []

theorem Bytes.ofChunks_eq_flatten (chunks : List Bytes) :
    Bytes.ofChunks chunks = chunks.flatten := by
  simp only [Bytes.ofChunks, List.foldl_reverse]
  induction chunks with
  | nil => rfl
  | cons chunk rest ih => simp [ih]

namespace Rune

def toNat : Rune → Nat
  | .char c => c.toNat
  | .lone half => 0xd800 + half.1

def isLone : Rune → Bool
  | .char _ => false
  | .lone _ => true

end Rune

namespace Text
variable {α : Type}

/-- The given texts in order, with the separator between neighbours. -/
def join (separator : List α) : List (List α) → List α
  | [] => []
  | [t] => t
  | t :: rest => t ++ separator ++ join separator rest

@[simp] theorem join_nil (s : List α) : join s [] = [] := rfl

@[simp] theorem join_singleton (s t : List α) : join s [t] = t := rfl

theorem join_cons_cons (s t u : List α) (rest : List (List α)) :
    join s (t :: u :: rest) = t ++ s ++ join s (u :: rest) := rfl

/-- A joined text holds no other characters than the pieces and the separator. -/
theorem mem_join {s : List α} {c : α} {pieces : List (List α)} (h : c ∈ join s pieces) :
    c ∈ s ∨ ∃ piece ∈ pieces, c ∈ piece := by
  induction pieces with
  | nil => cases h
  | cons piece rest ih =>
    cases rest with
    | nil => exact .inr ⟨piece, List.mem_cons_self .., h⟩
    | cons next rest =>
      rw [join_cons_cons, List.append_assoc, List.mem_append, List.mem_append] at h
      rcases h with h | h | h
      · exact .inr ⟨piece, List.mem_cons_self .., h⟩
      · exact .inl h
      · obtain hs | ⟨later, hlater, hc⟩ := ih h
        · exact .inl hs
        · exact .inr ⟨later, List.mem_cons_of_mem _ hlater, hc⟩

variable [DecidableEq α]

/-- The pieces between the separators: always one more than there are separators. -/
def splitOn (separator : α) : List α → List (List α)
  | [] => [[]]
  | c :: rest =>
    if c = separator then [] :: splitOn separator rest
    else
      match splitOn separator rest with
      | [] => [[c]]
      | piece :: pieces => (c :: piece) :: pieces

theorem splitOn_ne_nil (s : α) (t : List α) : splitOn s t ≠ [] := by
  cases t with
  | nil => simp [splitOn]
  | cons c rest =>
    simp only [splitOn]
    split
    · simp
    · split <;> simp

theorem join_splitOn (s : α) (t : List α) : join [s] (splitOn s t) = t := by
  induction t with
  | nil => rfl
  | cons c rest ih =>
    simp only [splitOn]
    split
    · next h =>
      cases hp : splitOn s rest with
      | nil => exact absurd hp (splitOn_ne_nil s rest)
      | cons p ps => rw [hp] at ih; simp [join, ih, h]
    · cases hp : splitOn s rest with
      | nil => exact absurd hp (splitOn_ne_nil s rest)
      | cons p ps =>
        rw [hp] at ih
        cases ps with
        | nil => simpa [join] using ih
        | cons q qs => simpa [join] using ih

theorem not_mem_of_mem_splitOn {s : α} {t piece : List α} (h : piece ∈ splitOn s t) :
    s ∉ piece := by
  induction t generalizing piece with
  | nil =>
    rw [List.mem_singleton.1 h]
    exact List.not_mem_nil
  | cons c rest ih =>
    simp only [splitOn] at h
    split at h
    · cases List.mem_cons.1 h with
      | inl hp =>
        rw [hp]
        exact List.not_mem_nil
      | inr hp => exact ih hp
    · next hc =>
      cases hs : splitOn s rest with
      | nil => exact absurd hs (splitOn_ne_nil s rest)
      | cons p ps =>
        rw [hs] at h ih
        cases List.mem_cons.1 h with
        | inl hp =>
          rw [hp, List.mem_cons, not_or]
          exact ⟨Ne.symm hc, ih (List.mem_cons_self ..)⟩
        | inr hp => exact ih (List.mem_cons_of_mem p hp)

theorem mem_of_mem_splitOn {s c : α} {t piece : List α} (h : piece ∈ splitOn s t)
    (hc : c ∈ piece) : c ∈ t := by
  induction t generalizing piece with
  | nil =>
    rw [List.mem_singleton.1 h] at hc
    exact hc
  | cons d rest ih =>
    simp only [splitOn] at h
    split at h
    · cases List.mem_cons.1 h with
      | inl hp =>
        rw [hp] at hc
        cases hc
      | inr hp => exact List.mem_cons_of_mem d (ih hp hc)
    · cases hs : splitOn s rest with
      | nil => exact absurd hs (splitOn_ne_nil s rest)
      | cons p ps =>
        rw [hs] at h ih
        cases List.mem_cons.1 h with
        | inl hp =>
          rw [hp, List.mem_cons] at hc
          cases hc with
          | inl hd => exact hd ▸ List.mem_cons_self ..
          | inr hp' => exact List.mem_cons_of_mem d (ih (List.mem_cons_self ..) hp')
        | inr hp => exact List.mem_cons_of_mem d (ih (List.mem_cons_of_mem p hp) hc)

theorem splitOn_append_cons (s : α) (t u : List α) :
    splitOn s (t ++ s :: u) = splitOn s t ++ splitOn s u := by
  induction t with
  | nil => simp [splitOn]
  | cons c t ih =>
    simp only [List.cons_append, splitOn]
    split
    · rw [ih]
      rfl
    · rw [ih]
      cases hp : splitOn s t with
      | nil => exact absurd hp (splitOn_ne_nil s t)
      | cons p ps => rfl

theorem splitOn_of_not_mem {s : α} {t : List α} (h : s ∉ t) : splitOn s t = [t] := by
  induction t with
  | nil => rfl
  | cons c t ih =>
    rw [List.mem_cons, not_or] at h
    simp only [splitOn, Ne.symm h.1, ↓reduceIte, ih h.2]

theorem splitOn_append {s : α} {piece : List α} (h : s ∉ piece) (t : List α) :
    splitOn s (piece ++ s :: t) = piece :: splitOn s t := by
  rw [splitOn_append_cons, splitOn_of_not_mem h, List.singleton_append]

theorem splitOn_join {s : α} {pieces : List (List α)} (hne : pieces ≠ [])
    (h : ∀ piece ∈ pieces, s ∉ piece) : splitOn s (join [s] pieces) = pieces := by
  induction pieces with
  | nil => exact absurd rfl hne
  | cons piece rest ih =>
    obtain ⟨hpiece, hrest⟩ := List.forall_mem_cons.1 h
    cases rest with
    | nil => exact splitOn_of_not_mem hpiece
    | cons next rest =>
      have hjoin : join [s] (piece :: next :: rest) = piece ++ s :: join [s] (next :: rest) := by
        rw [join_cons_cons, List.append_assoc]
        rfl
      rw [hjoin, splitOn_append hpiece, ih (by simp) hrest]

def ofChars (chars : Chars) : Text := chars.map .char

def chars (t : Text) : Chars :=
  t.filterMap fun
    | .char c => some c
    | .lone _ => none

def IsWhole (t : Text) : Prop := ∀ r ∈ t, r.isLone = false

instance (t : Text) : Decidable (IsWhole t) := inferInstanceAs (Decidable (∀ r ∈ t, _))

def ofNat (n : Nat) : Text := ofChars (Nat.toDigits 10 n)

/-- The decimal digits of an integer, behind a minus sign when it is negative. -/
def ofInt : Int → Text
  | .ofNat n => ofNat n
  | .negSucc n => '-' :: ofNat (n + 1)

end Text
end PipelineShell

def String.runes (s : String) : PipelineShell.Text := PipelineShell.Text.ofChars s.toList
