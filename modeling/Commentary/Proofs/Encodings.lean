import Commentary.Encoding
import Commentary.Proofs.Utf8RoundTrip

/-!
# Encodings back and forth

What an encoding has written it reads as the same text, so different texts are written as different
bytes.
-/

namespace Commentary.Encoding

variable {t t' : Text} {content : Bytes}

/-- Characters that are bytes are read from the bytes that they are written as. -/
theorem decodeBytes_of_encodeBytes {codec : Text} {limit : Nat} (hlimit : limit ≤ 256) {i : Nat}
    (h : encodeBytes codec limit i t = .ok content) (j : Nat) :
    decodeBytes codec limit j content = .ok t := by
  induction t generalizing i j content with
  | nil =>
    obtain rfl := Except.ok.inj h
    rfl
  | cons c t ih =>
    rw [encodeBytes] at h
    split at h
    · next hc =>
      cases hrest : encodeBytes codec limit (i + 1) t with
      | error e => simp [hrest, Except.map] at h
      | ok rest =>
        obtain rfl : Utf8.byte c.toNat :: rest = content := by simpa [hrest, Except.map] using h
        have hbyte : (Utf8.byte c.toNat).toNat = c.toNat := Utf8.toNat_byte (by omega)
        rw [decodeBytes, hbyte, if_pos hc, ih hrest, Char.ofNat_toNat]
        rfl
    · exact absurd h (by simp)

/-- Decoding UTF-8 gives back the text that was encoded. -/
theorem decodeUtf8_encode (t : Text) : decodeUtf8 (Utf8.encode t) = .ok t := by
  rw [decodeUtf8, Utf8.decode_encode]
  rfl

/-- The mark in front is read as a mark, whatever the text starts with. -/
theorem decodeMarked_encode (t : Text) : decodeMarked (mark ++ Utf8.encode t) = .ok t := by
  have hlong : decide ((mark ++ Utf8.encode t).length < mark.length) = false := by simp
  have hmark : mark.isPrefixOf (mark ++ Utf8.encode t) = true := by simp
  rw [decodeMarked, hlong, Bool.false_and, if_neg Bool.false_ne_true, if_pos hmark,
    List.drop_left, decodeUtf8_encode]

/-- An encoding reads what it has written. -/
theorem decode_of_encode {enc : Encoding} (h : enc.encode t = .ok content) :
    enc.decode content = .ok t := by
  cases enc with
  | utf8 =>
    obtain rfl := Except.ok.inj h
    exact decodeUtf8_encode t
  | utf8Mark =>
    obtain rfl := Except.ok.inj h
    exact decodeMarked_encode t
  | latin1 => exact decodeBytes_of_encodeBytes (by decide) h 0
  | ascii => exact decodeBytes_of_encodeBytes (by decide) h 0

/-- Two texts with the same bytes in one encoding are equal. -/
theorem eq_of_encode_eq {enc : Encoding} (h : enc.encode t = .ok content)
    (h' : enc.encode t' = .ok content) : t = t' :=
  Except.ok.inj ((decode_of_encode h).symm.trans (decode_of_encode h'))

end Commentary.Encoding
