import Commentary.Encoding.Utf8

/-!
# Reading back what UTF-8 writes

A decoder takes the bytes of a character for that character again, whatever stands behind them. Its
first byte opens a character of the right length, and the narrower ranges for the second byte leave
out only what no character is written with: longer spellings than needed, surrogates, and code
points past the last one.
-/

namespace Commentary.Utf8

/-- A number below 256 fits into a byte. -/
theorem toNat_byte {n : Nat} (h : n < 256) : (byte n).toNat = n := by
  rw [byte, UInt8.toNat_ofNat']
  exact Nat.mod_eq_of_lt h

/-! ## First bytes -/

variable {i k : Nat}

/-- The first of two bytes carries the upper bits and owes one byte. -/
theorem start?_two (hk : 2 ≤ k) (hk' : k < 32) :
    start? i (byte (0xC0 + k)) = some ⟨i, byte (0xC0 + k), 0, 0x80, 0xBF, k⟩ := by
  rw [start?, toNat_byte (by omega), if_pos (by omega), Nat.add_sub_cancel_left]

/-- The second of three bytes has all the bits it may need, unless the first one is the least or
leads to the surrogates. -/
theorem start?_three (i : Nat) (hk : k < 16) : ∃ low high,
    start? i (byte (0xE0 + k)) = some ⟨i, byte (0xE0 + k), 1, low, high, k⟩ ∧
      ∀ j < 64, (k = 0 → 32 ≤ j) → (k = 13 → j < 32) → low ≤ 0x80 + j ∧ 0x80 + j ≤ high := by
  rw [start?, toNat_byte (by omega), Nat.add_sub_cancel_left, if_neg (by omega)]
  by_cases hleast : k = 0
  · rw [if_pos (by omega)]
    exact ⟨_, _, rfl, fun j hj hfirst _ => ⟨Nat.add_le_add_left (hfirst hleast) 0x80, by omega⟩⟩
  · rw [if_neg (by omega)]
    by_cases hsurrogate : k = 13
    · rw [if_pos (by omega)]
      exact ⟨_, _, rfl, fun j _ _ hlast => ⟨by omega, by have := hlast hsurrogate; omega⟩⟩
    · rw [if_neg (by omega), if_pos (by omega)]
      exact ⟨_, _, rfl, fun j _ _ _ => by omega⟩

/-- The second of four bytes has all the bits it may need, unless the first one is the least or the
greatest. -/
theorem start?_four (i : Nat) (hk : k < 5) : ∃ low high,
    start? i (byte (0xF0 + k)) = some ⟨i, byte (0xF0 + k), 2, low, high, k⟩ ∧
      ∀ j < 64, (k = 0 → 16 ≤ j) → (k = 4 → j < 16) → low ≤ 0x80 + j ∧ 0x80 + j ≤ high := by
  rw [start?, toNat_byte (by omega), Nat.add_sub_cancel_left, if_neg (by omega),
    if_neg (by omega), if_neg (by omega), if_neg (by omega)]
  by_cases hleast : k = 0
  · rw [if_pos (by omega)]
    exact ⟨_, _, rfl, fun j hj hfirst _ => ⟨Nat.add_le_add_left (hfirst hleast) 0x80, by omega⟩⟩
  · rw [if_neg (by omega)]
    by_cases hgreatest : k = 4
    · rw [if_neg (by omega), if_pos (by omega)]
      exact ⟨_, _, rfl, fun j _ _ hlast => ⟨by omega, by have := hlast hgreatest; omega⟩⟩
    · rw [if_pos (by omega)]
      exact ⟨_, _, rfl, fun j _ _ _ => by omega⟩

/-- A byte that starts a longer character is pending until its other bytes are read. -/
theorem decodeFrom_start {b : UInt8} {p : Pending} (hb : 0x80 ≤ b.toNat)
    (hp : start? i b = some p) (bytes : Bytes) :
    decodeFrom i none (b :: bytes) = decodeFrom (i + 1) (some p) bytes := by
  rw [decodeFrom, if_neg (by omega), hp]

/-! ## Continuation bytes -/

section Continuation

variable {first low high code j : Nat} {b : UInt8} (hj : j < 64)
  (hrange : low ≤ 0x80 + j ∧ 0x80 + j ≤ high) (bytes : Bytes)
include hj hrange

/-- The last byte that is owed gives the character. -/
theorem decodeFrom_last :
    decodeFrom i (some ⟨first, b, 0, low, high, code⟩) (byte (0x80 + j) :: bytes) =
      (decodeFrom (i + 1) none bytes).map (Char.ofNat (code * 64 + j) :: ·) := by
  rw [decodeFrom, toNat_byte (by omega), if_pos hrange, Nat.add_sub_cancel_left]

/-- Any other byte that is owed gives six bits. -/
theorem decodeFrom_next (owed : Nat) :
    decodeFrom i (some ⟨first, b, owed + 1, low, high, code⟩) (byte (0x80 + j) :: bytes) =
      decodeFrom (i + 1) (some ⟨first, b, owed, 0x80, 0xBF, code * 64 + j⟩) bytes := by
  rw [decodeFrom, toNat_byte (by omega), if_pos hrange, Nat.add_sub_cancel_left]

end Continuation

/-! ## Characters and texts -/

section Numbers

variable {n : Nat} (i : Nat) (bytes : Bytes)

/-- A character of two bytes is read back. -/
theorem decodeFrom_two (hleast : 0x80 ≤ n) (hn : n < 0x800) :
    decodeFrom i none (byte (0xC0 + n / 64) :: byte (0x80 + n % 64) :: bytes) =
      (decodeFrom (i + 2) none bytes).map (Char.ofNat n :: ·) := by
  have hlead : 0x80 ≤ (byte (0xC0 + n / 64)).toNat := by
    rw [toNat_byte (by omega)]
    omega
  have hjoin : n / 64 * 64 + n % 64 = n := by omega
  rw [decodeFrom_start hlead (start?_two (by omega) (by omega)),
    decodeFrom_last (by omega) (by omega), hjoin]

/-- A character of three bytes is read back, unless it is a surrogate. -/
theorem decodeFrom_three (hleast : 0x800 ≤ n) (hn : n < 0x10000)
    (hvalid : n < 0xD800 ∨ 0xDFFF < n) :
    decodeFrom i none (byte (0xE0 + n / 4096) :: byte (0x80 + n / 64 % 64) ::
        byte (0x80 + n % 64) :: bytes) =
      (decodeFrom (i + 3) none bytes).map (Char.ofNat n :: ·) := by
  have hlead : 0x80 ≤ (byte (0xE0 + n / 4096)).toNat := by
    rw [toNat_byte (by omega)]
    omega
  obtain ⟨low, high, hstart, hsecond⟩ := start?_three i (k := n / 4096) (by omega)
  have hrange := hsecond (n / 64 % 64) (by omega) (by omega) (by omega)
  have hjoin : (n / 4096 * 64 + n / 64 % 64) * 64 + n % 64 = n := by omega
  rw [decodeFrom_start hlead hstart, decodeFrom_next (by omega) hrange,
    decodeFrom_last (by omega) (by omega), hjoin]

/-- A character of four bytes is read back. -/
theorem decodeFrom_four (hleast : 0x10000 ≤ n) (hn : n < 0x110000) :
    decodeFrom i none (byte (0xF0 + n / 262144) :: byte (0x80 + n / 4096 % 64) ::
        byte (0x80 + n / 64 % 64) :: byte (0x80 + n % 64) :: bytes) =
      (decodeFrom (i + 4) none bytes).map (Char.ofNat n :: ·) := by
  have hlead : 0x80 ≤ (byte (0xF0 + n / 262144)).toNat := by
    rw [toNat_byte (by omega)]
    omega
  obtain ⟨low, high, hstart, hsecond⟩ := start?_four i (k := n / 262144) (by omega)
  have hrange := hsecond (n / 4096 % 64) (by omega) (by omega) (by omega)
  have hjoin : ((n / 262144 * 64 + n / 4096 % 64) * 64 + n / 64 % 64) * 64 + n % 64 = n := by omega
  rw [decodeFrom_start hlead hstart, decodeFrom_next (by omega) hrange,
    decodeFrom_next (by omega) (by omega), decodeFrom_last (by omega) (by omega), hjoin]

end Numbers

/-- The bytes of a character are read as that character, and the decoder goes on behind them. -/
theorem decodeFrom_encodeChar (i : Nat) (c : Char) (bytes : Bytes) : ∃ i',
    decodeFrom i none (encodeChar c ++ bytes) = (decodeFrom i' none bytes).map (c :: ·) := by
  have hvalid : c.toNat < 0xD800 ∨ 0xDFFF < c.toNat ∧ c.toNat < 0x110000 := c.valid
  have hc : Char.ofNat c.toNat = c := Char.ofNat_toNat c
  rw [encodeChar]
  by_cases hone : c.toNat < 0x80
  · refine ⟨i + 1, ?_⟩
    rw [if_pos hone, List.singleton_append, decodeFrom, toNat_byte (by omega), if_pos hone, hc]
  · rw [if_neg hone]
    by_cases htwo : c.toNat < 0x800
    · rw [if_pos htwo]
      have hread := decodeFrom_two i bytes (by omega) htwo
      rw [hc] at hread
      exact ⟨i + 2, hread⟩
    · rw [if_neg htwo]
      by_cases hthree : c.toNat < 0x10000
      · rw [if_pos hthree]
        have hread := decodeFrom_three i bytes (by omega) hthree (hvalid.imp_right And.left)
        rw [hc] at hread
        exact ⟨i + 3, hread⟩
      · rw [if_neg hthree]
        have hread := decodeFrom_four i bytes (by omega) (show c.toNat < 0x110000 by omega)
        rw [hc] at hread
        exact ⟨i + 4, hread⟩

/-- Decoding gives back the text that was encoded. -/
theorem decode_encode (t : Text) : decode (encode t) = .ok t := by
  suffices hread : ∀ i, decodeFrom i none (encode t) = .ok t from hread 0
  intro i
  induction t generalizing i with
  | nil => rfl
  | cons c t ih =>
    obtain ⟨i', hread⟩ := decodeFrom_encodeChar i c (encode t)
    exact hread.trans (by rw [ih, Except.map])

end Commentary.Utf8
