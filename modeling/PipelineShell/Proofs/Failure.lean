import PipelineShell.Proofs.Text.System

/-!
# Failures that can be reported

The message of a failure has an encoding unless it holds the target of a redirection that has none.
-/

namespace PipelineShell

namespace Text

@[simp] theorem isWhole_ofNat (n : Nat) : (ofNat n).IsWhole := isWhole_ofChars _

@[simp] theorem isWhole_ofInt (n : Int) : (ofInt n).IsWhole := by
  cases n with
  | ofNat n => exact isWhole_ofNat n
  | negSucc n => exact isWhole_cons.2 ⟨rfl, isWhole_ofNat (n + 1)⟩

@[simp] theorem isWhole_hex (width n : Nat) : (hex width n).IsWhole := by
  induction width generalizing n with
  | zero => exact isWhole_nil
  | succ width ih =>
    rw [hex, isWhole_append]
    exact ⟨ih _, by simp⟩

theorem isLone_of_isShown {r : Rune} (h : isShown r = true) : r.isLone = false := by
  cases r with
  | char c => rfl
  | lone half => cases h

theorem isWhole_escapeRune {mark : Rune} (hmark : mark.isLone = false) (r : Rune) :
    (escapeRune mark r).IsWhole := by
  unfold escapeRune
  split
  · next h =>
    have hr : r.isLone = false := by
      obtain rfl | rfl : r = mark ∨ r = '\\' := by simpa using h
      · exact hmark
      · rfl
    exact isWhole_cons.2 ⟨rfl, isWhole_cons.2 ⟨hr, isWhole_nil⟩⟩
  · -- the code point itself is kept only if it is shown
    repeat' split
    all_goals simp_all [isLone_of_isShown]

@[simp] theorem isWhole_quoted (t : Text) : (quoted t).IsWhole := by
  have hmark : (quotationMark t).isLone = false := by
    unfold quotationMark
    split <;> rfl
  have hbody : IsWhole (t.flatMap (escapeRune (quotationMark t))) := by
    intro r hr
    obtain ⟨c, -, hrc⟩ := List.mem_flatMap.1 hr
    exact isWhole_escapeRune hmark c r hrc
  simp [quoted, hmark, hbody]

theorem IsWhole.take {t : Text} (h : t.IsWhole) (n : Nat) : IsWhole (t.take n) :=
  fun r hr => h r (List.mem_of_mem_take hr)

end Text

@[simp] theorem SystemError.isWhole_message (e : SystemError) : e.message.IsWhole := by
  cases e <;> exact Text.isWhole_runes _

@[simp] theorem Utf8.Fault.isWhole_message (f : Utf8.Fault) : f.message.IsWhole := by
  cases f <;> exact Text.isWhole_runes _

@[simp] theorem Utf8.Error.isWhole_message (e : Utf8.Error) : e.message.IsWhole := by
  unfold message
  split <;> simp

@[simp] theorem Utf8.Unencodable.isWhole_message (e : Utf8.Unencodable) : e.message.IsWhole := by
  unfold message
  split <;> simp

@[simp] theorem Text.Numeral.Error.isWhole_message (text : Text) (e : Text.Numeral.Error) :
    (e.message text).IsWhole := by
  cases e with
  | malformed => exact Text.isWhole_append.2 ⟨by simp, (Text.isWhole_quoted text).take _⟩
  | tooLong digits => simp [message]

/-- A failure is reported unless it is that of a redirection whose target has no encoding. -/
theorem Failure.isWhole_message_iff (f : Failure) :
    f.message.IsWhole ↔ ∀ path cause, f = .redirectTarget path cause → path.IsWhole := by
  cases f <;> simp [message, SystemError.numbered]

end PipelineShell
