import PipelineShell.Text.Utf8

/-!
# Encoded texts

UTF-8 decoding undoes encoding, and no other bytes decode to a character. The texts that have an
encoding are those without surrogates.
-/

namespace PipelineShell.Utf8

theorem toNat_toUInt8 {n : Nat} (h : n < 256) : n.toUInt8.toNat = n := by
  simp only [Nat.toUInt8_eq, UInt8.toNat_ofNat']
  exact Nat.mod_eq_of_lt h

theorem isContinuation_iff (b : UInt8) :
    isContinuation b = true ↔ 0x80 ≤ b.toNat ∧ b.toNat ≤ 0xbf := by
  simp only [isContinuation, Bool.and_eq_true, decide_eq_true_eq, UInt8.le_iff_toNat_le]
  rfl

/-- The second byte is a continuation, and the first byte may narrow the range that it is in. -/
theorem isSecond_iff {first b : UInt8} :
    isSecond first b = true ↔ (0x80 ≤ b.toNat ∧ b.toNat ≤ 0xbf) ∧
      (first.toNat = 0xe0 → 0xa0 ≤ b.toNat) ∧ (first.toNat = 0xed → b.toNat < 0xa0) ∧
      (first.toNat = 0xf0 → 0x90 ≤ b.toNat) ∧ (first.toNat = 0xf4 → b.toNat < 0x90) := by
  have heq (m : UInt8) : (first = m) = (first.toNat = m.toNat) := propext UInt8.toNat_inj.symm
  simp only [isSecond, Bool.and_eq_true, isContinuation_iff,
    Bool.not_eq_true', Bool.and_eq_false_iff, decide_eq_false_iff_not, heq, ge_iff_le,
    UInt8.lt_iff_toNat_lt, UInt8.le_iff_toNat_le]
  have h80 : (0xe0 : UInt8).toNat = 0xe0 ∧ (0xed : UInt8).toNat = 0xed ∧
      (0xf0 : UInt8).toNat = 0xf0 ∧ (0xf4 : UInt8).toNat = 0xf4 ∧ (0xa0 : UInt8).toNat = 0xa0 ∧
      (0x90 : UInt8).toNat = 0x90 := by decide
  obtain ⟨h₁, h₂, h₃, h₄, h₅, h₆⟩ := h80
  rw [h₁, h₂, h₃, h₄, h₅, h₆]
  omega

theorem next_two {first b : UInt8} (hfirst : 0xc2 ≤ first.toNat ∧ first.toNat < 0xe0)
    (hb : isContinuation b = true) (rest : Bytes) :
    next first (b :: rest) = .ok (Char.ofNat (first.toNat % 32 * 64 + low b), 2) := by
  simp only [next, hb, ↓reduceIte]
  rw [if_neg (by omega), if_neg (by omega), if_pos (by omega)]

theorem next_three {first b c : UInt8} (hfirst : 0xe0 ≤ first.toNat ∧ first.toNat < 0xf0)
    (hb : isSecond first b = true) (hc : isContinuation c = true) (rest : Bytes) :
    next first (b :: c :: rest) =
      .ok (Char.ofNat (first.toNat % 16 * 4096 + low b * 64 + low c), 3) := by
  simp only [next, hb, hc, Bool.not_true, Bool.false_eq_true, ↓reduceIte]
  rw [if_neg (by omega), if_neg (by omega), if_neg (by omega), if_pos (by omega)]

theorem next_four {first b c d : UInt8} (hfirst : 0xf0 ≤ first.toNat ∧ first.toNat < 0xf5)
    (hb : isSecond first b = true) (hc : isContinuation c = true) (hd : isContinuation d = true)
    (rest : Bytes) :
    next first (b :: c :: d :: rest) =
      .ok (Char.ofNat (first.toNat % 8 * 262144 + low b * 4096 + low c * 64 + low d), 4) := by
  simp only [next, hb, hc, hd, Bool.not_true, Bool.false_eq_true, ↓reduceIte]
  rw [if_neg (by omega), if_neg (by omega), if_neg (by omega), if_neg (by omega),
    if_pos (by omega)]

theorem next_encodeChar (c : Char) :
    ∃ first others, encodeChar c = first :: others ∧
      ∀ rest, next first (others ++ rest) = .ok (c, others.length + 1) := by
  have hvalid : c.toNat < 0xd800 ∨ 0xdfff < c.toNat ∧ c.toNat < 0x110000 := c.valid
  have hback : Char.ofNat c.toNat = c := Char.ofNat_toNat c
  generalize hn : c.toNat = n at hvalid hback
  simp only [encodeChar, hn]
  -- one case for each length; in each the bytes add up to the code point
  by_cases h₁ : n < 0x80
  · refine ⟨_, [], by rw [if_pos h₁], fun rest => ?_⟩
    have hfirst := toNat_toUInt8 (n := n) (by omega)
    simp only [next, hfirst, if_pos h₁, hback, List.length_nil, Nat.zero_add]
  · by_cases h₂ : n < 0x800
    · refine ⟨_, [_], by rw [if_neg h₁, if_pos h₂], fun rest => ?_⟩
      have hfirst := toNat_toUInt8 (n := 0xc0 + n / 64) (by omega)
      have hsecond := toNat_toUInt8 (n := 0x80 + n % 64) (by omega)
      have hcont := (isContinuation_iff (0x80 + n % 64).toUInt8).2 (by omega)
      have hvalue : (0xc0 + n / 64) % 32 * 64 + (0x80 + n % 64) % 64 = n := by omega
      have hlead : 0xc2 ≤ (0xc0 + n / 64).toUInt8.toNat ∧ (0xc0 + n / 64).toUInt8.toNat < 0xe0 := by
        omega
      have h := next_two hlead hcont rest
      rwa [low, hfirst, hsecond, hvalue, hback] at h
    · by_cases h₃ : n < 0x10000
      · refine ⟨_, [_, _], by rw [if_neg h₁, if_neg h₂, if_pos h₃], fun rest => ?_⟩
        have hfirst := toNat_toUInt8 (n := 0xe0 + n / 4096) (by omega)
        have hsecond := toNat_toUInt8 (n := 0x80 + n / 64 % 64) (by omega)
        have hthird := toNat_toUInt8 (n := 0x80 + n % 64) (by omega)
        have hcont := (isContinuation_iff (0x80 + n % 64).toUInt8).2 (by omega)
        have hrange : isSecond (0xe0 + n / 4096).toUInt8 (0x80 + n / 64 % 64).toUInt8 = true :=
          isSecond_iff.2 ⟨by omega, by omega, by omega, by omega, by omega⟩
        have hvalue : (0xe0 + n / 4096) % 16 * 4096 + (0x80 + n / 64 % 64) % 64 * 64 +
            (0x80 + n % 64) % 64 = n := by omega
        have h := next_three (by omega) hrange hcont rest
        rwa [low, low, hfirst, hsecond, hthird, hvalue, hback] at h
      · refine ⟨_, [_, _, _], by rw [if_neg h₁, if_neg h₂, if_neg h₃], fun rest => ?_⟩
        have hfirst := toNat_toUInt8 (n := 0xf0 + n / 262144) (by omega)
        have hsecond := toNat_toUInt8 (n := 0x80 + n / 4096 % 64) (by omega)
        have hthird := toNat_toUInt8 (n := 0x80 + n / 64 % 64) (by omega)
        have hfourth := toNat_toUInt8 (n := 0x80 + n % 64) (by omega)
        have hcont₁ := (isContinuation_iff (0x80 + n / 64 % 64).toUInt8).2 (by omega)
        have hcont₂ := (isContinuation_iff (0x80 + n % 64).toUInt8).2 (by omega)
        have hrange : isSecond (0xf0 + n / 262144).toUInt8 (0x80 + n / 4096 % 64).toUInt8 = true :=
          isSecond_iff.2 ⟨by omega, by omega, by omega, by omega, by omega⟩
        have hvalue : (0xf0 + n / 262144) % 8 * 262144 + (0x80 + n / 4096 % 64) % 64 * 4096 +
            (0x80 + n / 64 % 64) % 64 * 64 + (0x80 + n % 64) % 64 = n := by omega
        have h := next_four (by omega) hrange hcont₁ hcont₂ rest
        rwa [low, low, low, hfirst, hsecond, hthird, hfourth, hvalue, hback] at h

theorem go_skip (position : Nat) (done : Chars) (skipped rest : Bytes) :
    ∃ position', decode.go position skipped.length done (skipped ++ rest) =
      decode.go position' 0 done rest := by
  induction skipped generalizing position with
  | nil => exact ⟨position, rfl⟩
  | cons b skipped ih =>
    obtain ⟨position', h⟩ := ih (position + 1)
    exact ⟨position', by rw [List.length_cons, List.cons_append, decode.go, h]⟩

theorem go_encodeChars (position : Nat) (done chars : Chars) :
    decode.go position 0 done (encodeChars chars) = .ok (done.reverse ++ chars) := by
  induction chars generalizing position done with
  | nil => simp [encodeChars, decode.go]
  | cons c chars ih =>
    obtain ⟨first, others, hchar, hnext⟩ := next_encodeChar c
    obtain ⟨position', hskip⟩ := go_skip (position + 1) (c :: done) others (encodeChars chars)
    have hbytes : encodeChars (c :: chars) = first :: (others ++ encodeChars chars) := by
      rw [encodeChars, List.flatMap_cons, hchar]
      rfl
    rw [hbytes, decode.go, hnext]
    simp only [Nat.add_sub_cancel]
    rw [hskip, ih, List.reverse_cons, List.append_assoc]
    rfl

theorem decode_encodeChars (chars : Chars) : decode (encodeChars chars) = .ok chars :=
  go_encodeChars 0 [] chars

theorem encodeChars_injective {cs ds : Chars} (h : encodeChars cs = encodeChars ds) : cs = ds := by
  have hback := decode_encodeChars cs
  rw [h, decode_encodeChars ds, Except.ok.injEq] at hback
  exact hback.symm

/-! ### Texts with and without halves of surrogate pairs -/

theorem unencodable?_eq_none {allowed : Surrogate → Bool} {position : Nat} {t : Text} :
    unencodable? allowed position t = none ↔ ∀ half, .lone half ∈ t → allowed half = true := by
  induction t generalizing position with
  | nil => simp [unencodable?]
  | cons r t ih =>
    cases r with
    | char c => simp [unencodable?, ih]
    | lone half =>
      simp only [unencodable?]
      split <;> simp_all

theorem isWhole_iff {t : Text} : t.IsWhole ↔ ∀ half, .lone half ∉ t := by
  constructor
  · intro h half hmem
    exact absurd (h _ hmem) (by simp [Rune.isLone])
  · intro h r hr
    cases r with
    | char c => rfl
    | lone half => exact absurd hr (h half)

theorem encode_of_isWhole {t : Text} (h : t.IsWhole) : encode t = .ok (encodeChars t.chars) := by
  have hnone : unencodable? (fun _ => false) 0 t = none :=
    unencodable?_eq_none.2 fun half hmem => absurd hmem (isWhole_iff.1 h half)
  rw [encode, hnone]

theorem encode_of_not_isWhole {t : Text} (h : ¬t.IsWhole) : ∃ e, encode t = .error e := by
  cases hfound : unencodable? (fun _ => false) 0 t with
  | some e => exact ⟨e, by rw [encode, hfound]⟩
  | none =>
    refine absurd (isWhole_iff.2 fun half hmem => ?_) h
    exact absurd (unencodable?_eq_none.1 hfound half hmem) (by simp)

theorem encode_eq_ok_iff {t : Text} {data : Bytes} :
    encode t = .ok data ↔ t.IsWhole ∧ encodeChars t.chars = data := by
  by_cases h : t.IsWhole
  · simp [encode_of_isWhole h, h]
  · obtain ⟨e, he⟩ := encode_of_not_isWhole h
    simp [he, h]

/-! ### The characters that have been read -/

theorem toNat_ofNat {n : Nat} (h : n.isValidChar) : (Char.ofNat n).toNat = n := by
  rw [Char.ofNat, dif_pos h]
  rfl

theorem toUInt8_eq {b : UInt8} {n : Nat} (h : n = b.toNat) : n.toUInt8 = b := by
  rw [h, Nat.toUInt8_eq, UInt8.ofNat_toNat]

theorem encodeChar_one {first : UInt8} (h : first.toNat < 0x80) :
    encodeChar (Char.ofNat first.toNat) = [first] := by
  simp only [encodeChar, toNat_ofNat (n := first.toNat) (.inl (by omega)), if_pos h,
    toUInt8_eq (rfl : first.toNat = first.toNat)]

theorem encodeChar_two {first b : UInt8} (hfirst : 0xc2 ≤ first.toNat ∧ first.toNat < 0xe0)
    (hb : isContinuation b = true) :
    encodeChar (Char.ofNat (first.toNat % 32 * 64 + low b)) = [first, b] := by
  rw [isContinuation_iff] at hb
  unfold low
  generalize hn : first.toNat % 32 * 64 + b.toNat % 64 = n
  have hvalue : (Char.ofNat n).toNat = n := toNat_ofNat (.inl (by omega))
  simp only [encodeChar, hvalue]
  rw [if_neg (by omega), if_pos (by omega)]
  have h₁ : (0xc0 + n / 64).toUInt8 = first := toUInt8_eq (by omega)
  have h₂ : (0x80 + n % 64).toUInt8 = b := toUInt8_eq (by omega)
  rw [h₁, h₂]

theorem encodeChar_three {first b c : UInt8} (hfirst : 0xe0 ≤ first.toNat ∧ first.toNat < 0xf0)
    (hb : isSecond first b = true) (hc : isContinuation c = true) :
    encodeChar (Char.ofNat (first.toNat % 16 * 4096 + low b * 64 + low c)) = [first, b, c] := by
  rw [isSecond_iff] at hb
  rw [isContinuation_iff] at hc
  unfold low
  generalize hn : first.toNat % 16 * 4096 + b.toNat % 64 * 64 + c.toNat % 64 = n
  have hvalid : n < 0xd800 ∨ 0xdfff < n ∧ n < 0x110000 := by omega
  have hvalue : (Char.ofNat n).toNat = n := toNat_ofNat hvalid
  simp only [encodeChar, hvalue]
  rw [if_neg (by omega), if_neg (by omega), if_pos (by omega)]
  have h₁ : (0xe0 + n / 4096).toUInt8 = first := toUInt8_eq (by omega)
  have h₂ : (0x80 + n / 64 % 64).toUInt8 = b := toUInt8_eq (by omega)
  have h₃ : (0x80 + n % 64).toUInt8 = c := toUInt8_eq (by omega)
  rw [h₁, h₂, h₃]

theorem encodeChar_four {first b c d : UInt8} (hfirst : 0xf0 ≤ first.toNat ∧ first.toNat < 0xf5)
    (hb : isSecond first b = true) (hc : isContinuation c = true) (hd : isContinuation d = true) :
    encodeChar (Char.ofNat (first.toNat % 8 * 262144 + low b * 4096 + low c * 64 + low d)) =
      [first, b, c, d] := by
  rw [isSecond_iff] at hb
  rw [isContinuation_iff] at hc hd
  unfold low
  generalize hn : first.toNat % 8 * 262144 + b.toNat % 64 * 4096 + c.toNat % 64 * 64 +
    d.toNat % 64 = n
  have hvalid : n < 0xd800 ∨ 0xdfff < n ∧ n < 0x110000 := by omega
  have hvalue : (Char.ofNat n).toNat = n := toNat_ofNat hvalid
  simp only [encodeChar, hvalue]
  rw [if_neg (by omega), if_neg (by omega), if_neg (by omega)]
  have h₁ : (0xf0 + n / 262144).toUInt8 = first := toUInt8_eq (by omega)
  have h₂ : (0x80 + n / 4096 % 64).toUInt8 = b := toUInt8_eq (by omega)
  have h₃ : (0x80 + n / 64 % 64).toUInt8 = c := toUInt8_eq (by omega)
  have h₄ : (0x80 + n % 64).toUInt8 = d := toUInt8_eq (by omega)
  rw [h₁, h₂, h₃, h₄]

theorem encodeChar_of_next {first : UInt8} {rest : Bytes} {c : Char} {size : Nat} :
    next first rest = .ok (c, size) →
      ∃ others more, rest = others ++ more ∧ size = others.length + 1 ∧
        encodeChar c = first :: others := by
  -- the four ways to succeed, one for each length
  fun_cases next first rest
  case case1 n hone =>
    rintro ⟨⟩
    exact ⟨[], rest, rfl, rfl, encodeChar_one hone⟩
  case case4 n hone hlow htwo b more hb =>
    rintro ⟨⟩
    exact ⟨[b], more, rfl, rfl, encodeChar_two ⟨by omega, htwo⟩ hb⟩
  case case9 n hone hlow htwo hthree b hb b' more hb' =>
    rintro ⟨⟩
    exact ⟨[b, b'], more, rfl, rfl, encodeChar_three ⟨by omega, hthree⟩ (by simpa using hb) hb'⟩
  case case16 n hone hlow htwo hthree hfour b hb b' hb' b'' more hb'' =>
    rintro ⟨⟩
    exact ⟨[b, b', b''], more, rfl, rfl,
      encodeChar_four ⟨by omega, hfour⟩ (by simpa using hb) (by simpa using hb') hb''⟩
  all_goals exact nofun

theorem encodeChars_of_go {position : Nat} {done t : Chars} {bytes : Bytes}
    (h : decode.go position 0 done bytes = .ok t) :
    ∃ read, t = done.reverse ++ read ∧ encodeChars read = bytes := by
  induction hn : bytes.length using Nat.strongRecOn generalizing position done bytes with
  | ind n ih =>
    cases bytes with
    | nil =>
      cases h
      exact ⟨[], by simp, rfl⟩
    | cons first rest =>
      rw [decode.go] at h
      cases hnext : next first rest with
      | error e =>
        rw [hnext] at h
        cases h
      | ok found =>
        obtain ⟨c, size⟩ := found
        obtain ⟨others, more, rfl, rfl, hchar⟩ := encodeChar_of_next hnext
        obtain ⟨position', hskip⟩ := go_skip (position + 1) (c :: done) others more
        rw [hnext] at h
        simp only [Nat.add_sub_cancel] at h
        rw [hskip] at h
        rw [List.length_cons, List.length_append] at hn
        obtain ⟨read, rfl, hread⟩ := ih more.length (by omega) h rfl
        refine ⟨c :: read, by simp, ?_⟩
        rw [encodeChars, List.flatMap_cons, hchar, ← hread]
        rfl

theorem decode_eq_ok_iff {bytes : Bytes} {chars : Chars} :
    decode bytes = .ok chars ↔ encodeChars chars = bytes := by
  constructor
  · intro h
    obtain ⟨read, rfl, hread⟩ := encodeChars_of_go h
    exact hread
  · rintro rfl
    exact decode_encodeChars chars

end PipelineShell.Utf8
