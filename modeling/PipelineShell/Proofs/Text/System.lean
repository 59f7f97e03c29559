import PipelineShell.Failure
import PipelineShell.Proofs.Text.Utf8

/-!
# Texts that the system knows

A text without surrogates is read back from the bytes that the system has for it.
-/

namespace PipelineShell.Text

@[simp] theorem isLone_char (c : Char) : (Rune.char c).isLone = false := rfl

@[simp] theorem isWhole_nil : IsWhole [] := nofun

@[simp] theorem isWhole_cons {r : Rune} {t : Text} :
    IsWhole (r :: t) ↔ r.isLone = false ∧ t.IsWhole := List.forall_mem_cons

@[simp] theorem isWhole_append {t u : Text} : IsWhole (t ++ u) ↔ t.IsWhole ∧ u.IsWhole :=
  List.forall_mem_append

@[simp] theorem isWhole_ofChars (chars : Chars) : (ofChars chars).IsWhole := by
  intro r hr
  obtain ⟨c, -, rfl⟩ := List.mem_map.1 hr
  rfl

@[simp] theorem isWhole_runes (s : String) : s.runes.IsWhole := isWhole_ofChars s.toList

@[simp] theorem chars_ofChars (cs : Chars) : (ofChars cs).chars = cs := by
  induction cs with
  | nil => rfl
  | cons c cs ih => exact congrArg (c :: ·) ih

theorem ofChars_chars {t : Text} (h : t.IsWhole) : ofChars t.chars = t := by
  induction t with
  | nil => rfl
  | cons r t ih =>
    obtain ⟨hr, ht⟩ := isWhole_cons.1 h
    cases r with
    | char c => simpa [ofChars, chars] using ih ht
    | lone half => cases hr

theorem stored_append (t u : Text) : stored (t ++ u) = stored t ++ stored u :=
  List.flatMap_append ..

theorem stored_ofChars (chars : Chars) : stored (ofChars chars) = Utf8.encodeChars chars := by
  rw [stored, ofChars, List.flatMap_map]
  rfl

theorem encode_eq_stored {t : Text} (h : t.IsWhole) : Utf8.encode t = .ok t.stored := by
  rw [Utf8.encode_of_isWhole h, ← stored_ofChars, ofChars_chars h]

/-- The bytes of a text with a line end behind it. -/
def lineBytes (t : Text) : Bytes := Text.stored (t ++ [.char '\n'])

theorem lineBytes_ne_nil (t : Text) : t.lineBytes ≠ [] := by
  rw [lineBytes, stored_append]
  exact List.append_ne_nil_of_right_ne_nil _ (by decide)

theorem isWhole_line {t : Text} : Text.IsWhole (t ++ [.char '\n']) ↔ t.IsWhole := by
  simp [Rune.isLone]

theorem encode_line {t : Text} (h : t.IsWhole) :
    Utf8.encode (t ++ [.char '\n']) = .ok t.lineBytes :=
  encode_eq_stored (isWhole_line.2 h)

theorem stored_injective {t u : Text} (ht : t.IsWhole) (hu : u.IsWhole)
    (h : t.stored = u.stored) : t = u := by
  rw [← ofChars_chars ht, ← ofChars_chars hu, stored_ofChars, stored_ofChars] at h
  rw [← ofChars_chars ht, ← ofChars_chars hu, Utf8.encodeChars_injective h]

theorem lineBytes_injective {t u : Text} (ht : t.IsWhole) (hu : u.IsWhole)
    (h : t.lineBytes = u.lineBytes) : t = u :=
  List.append_cancel_right (stored_injective (isWhole_line.2 ht) (isWhole_line.2 hu) h)

theorem ofStored_go_skip (done : Text) (skipped rest : Bytes) :
    ofStored.go skipped.length done (skipped ++ rest) = ofStored.go 0 done rest := by
  induction skipped with
  | nil => rfl
  | cons b skipped ih => rw [List.length_cons, List.cons_append, ofStored.go, ih]

theorem ofStored_go_encodeChars (done : Text) (chars : Chars) :
    ofStored.go 0 done (Utf8.encodeChars chars) = done.reverse ++ ofChars chars := by
  induction chars generalizing done with
  | nil => simp [Utf8.encodeChars, ofStored.go, ofChars]
  | cons c chars ih =>
    obtain ⟨first, others, hchar, hnext⟩ := Utf8.next_encodeChar c
    have hbytes : Utf8.encodeChars (c :: chars) = first :: (others ++ Utf8.encodeChars chars) := by
      rw [Utf8.encodeChars, List.flatMap_cons, hchar]
      rfl
    rw [hbytes, ofStored.go, hnext]
    simp only [Nat.add_sub_cancel]
    rw [ofStored_go_skip, ih, List.reverse_cons, List.append_assoc]
    rfl

/-- A text without halves of surrogate pairs is read back from what the system knows it by. -/
theorem ofStored_stored {t : Text} (h : t.IsWhole) : ofStored t.stored = t := by
  rw [← ofChars_chars h, stored_ofChars, ofStored, ofStored_go_encodeChars]
  rfl

/-- The system can be given exactly the texts whose halves of surrogate pairs all stand for bytes
and that hold no NUL character. -/
theorem isFit_iff {t : Text} :
    isFit t = true ↔ (∀ half, .lone half ∈ t → half.isByte = true) ∧ .char '\x00' ∉ t := by
  rw [isFit, Bool.and_eq_true, Option.isNone_iff_eq_none, Utf8.unencodable?_eq_none]
  simp

theorem unfit?_eq_none {t : Text} : t.unfit? = none ↔ isFit t = true := by
  rw [unfit?, isFit, Bool.and_eq_true, Option.isNone_iff_eq_none]
  cases Utf8.unencodable? Surrogate.isByte 0 t with
  | some e => simp
  | none => simp

theorem unfit?_eq_some {t : Text} {failure : Failure} (h : t.unfit? = some failure) :
    failure = .embeddedNul ∧ .char '\x00' ∈ t ∨ ∃ e, failure = .unencodable e := by
  unfold unfit? at h
  split at h
  · next e _ => exact .inr ⟨e, (Option.some.inj h).symm⟩
  · split at h
    · next hnul => exact .inl ⟨(Option.some.inj h).symm, by simpa using hnul⟩
    · cases h

theorem isFit_of_isWhole {t : Text} (h : t.IsWhole) (hnul : .char '\x00' ∉ t) : isFit t = true :=
  isFit_iff.2 ⟨fun half hmem => absurd hmem (Utf8.isWhole_iff.1 h half), hnul⟩

theorem isFit_of_mem {t u v : Text} (ht : isFit t = true) (hu : isFit u = true)
    (h : ∀ r ∈ v, r ∈ t ∨ r ∈ u ∨ ∃ c, r = .char c ∧ c ≠ '\x00') : isFit v = true := by
  obtain ⟨htlone, htnul⟩ := isFit_iff.1 ht
  obtain ⟨hulone, hunul⟩ := isFit_iff.1 hu
  refine isFit_iff.2 ⟨fun half hmem => ?_, fun hmem => ?_⟩
  · obtain hm | hm | ⟨c, hc, -⟩ := h _ hmem
    · exact htlone half hm
    · exact hulone half hm
    · cases hc
  · obtain hm | hm | ⟨c, hc, hne⟩ := h _ hmem
    · exact htnul hm
    · exact hunul hm
    · exact hne (Rune.char.inj hc).symm

end PipelineShell.Text
