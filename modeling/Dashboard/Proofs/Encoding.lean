import Dashboard.Text.Percent

/-!
# Percent-encoded texts

Of the characters that are not unreserved only the percent sign stands in an
encoded text, so it holds none of those that cut an address up. Decoding gives
every text back (`decode?_encode`), hence no two texts have one encoding.
-/

namespace Dashboard.Text.Percent

/-! ## Characters -/

theorem isUnreserved_hexDigit : ∀ n < 16, isUnreserved (hexDigit n) = true := by
  decide

theorem hexValue?_hexDigit : ∀ n < 16, hexValue? (hexDigit n) = some n := by
  decide

theorem nibbles_lt (b : UInt8) : b.toNat / 16 < 16 ∧ b.toNat % 16 < 16 := by
  have hb := b.toNat_lt
  omega

theorem mem_encodeByte {b : UInt8} {c : Char} (h : c ∈ encodeByte b) : isUnreserved c = true ∨ c = '%' := by
  obtain ⟨hhigh, hlow⟩ := nibbles_lt b
  simp only [encodeByte, List.mem_cons, List.not_mem_nil, or_false] at h
  rcases h with rfl | rfl | rfl
  · exact Or.inr rfl
  · exact Or.inl (isUnreserved_hexDigit _ hhigh)
  · exact Or.inl (isUnreserved_hexDigit _ hlow)

theorem mem_encode {s : String} {c : Char} (h : c ∈ (encode s).toList) : isUnreserved c = true ∨ c = '%' := by
  rw [encode, String.toList_ofList] at h
  obtain ⟨d, -, h⟩ := List.mem_flatMap.mp h
  unfold encodeChar at h
  by_cases hd : isUnreserved d = true
  · rw [if_pos hd, List.mem_singleton] at h
    exact Or.inl (h ▸ hd)
  · rw [if_neg hd] at h
    obtain ⟨b, -, h⟩ := List.mem_flatMap.mp h
    exact mem_encodeByte h

theorem not_mem_encode {c : Char} (hc : isUnreserved c = false) (hp : c ≠ '%') (s : String) :
    c ∉ (encode s).toList := by
  intro h
  rcases mem_encode h with h | h
  · simp [hc] at h
  · exact hp h

/-! ## Decoding -/

theorem decodeBytes_cons {c : Char} (hc : c ≠ '%') (rest : List Char) :
    decodeBytes (c :: rest) = String.utf8EncodeChar c ++ decodeBytes rest := by
  rw [decodeBytes]
  rintro _ _ _ rfl
  exact absurd rfl hc

theorem decodeBytes_encodeByte (b : UInt8) (rest : List Char) :
    decodeBytes (encodeByte b ++ rest) = b :: decodeBytes rest := by
  obtain ⟨hhigh, hlow⟩ := nibbles_lt b
  have hb : UInt8.ofNat (b.toNat / 16 * 16 + b.toNat % 16) = b := by
    rw [Nat.div_add_mod', UInt8.ofNat_toNat]
  simp only [encodeByte, List.cons_append, List.nil_append, decodeBytes, hexValue?_hexDigit _ hhigh,
    hexValue?_hexDigit _ hlow, hb]

theorem decodeBytes_flatMap_encodeByte : ∀ (bytes : List UInt8) (rest : List Char),
    decodeBytes (bytes.flatMap encodeByte ++ rest) = bytes ++ decodeBytes rest
  | [], _ => rfl
  | b :: bytes, rest => by
    rw [List.flatMap_cons, List.append_assoc, decodeBytes_encodeByte, decodeBytes_flatMap_encodeByte bytes,
      List.cons_append]

theorem decodeBytes_encodeChar (c : Char) (rest : List Char) :
    decodeBytes (encodeChar c ++ rest) = String.utf8EncodeChar c ++ decodeBytes rest := by
  unfold encodeChar
  by_cases hc : isUnreserved c = true
  · have hne : c ≠ '%' := by
      rintro rfl
      exact absurd hc (by decide)
    rw [if_pos hc]
    exact decodeBytes_cons hne rest
  · rw [if_neg hc]
    exact decodeBytes_flatMap_encodeByte _ rest

theorem decodeBytes_flatMap_encodeChar : ∀ chars : List Char,
    decodeBytes (chars.flatMap encodeChar) = chars.flatMap String.utf8EncodeChar
  | [] => rfl
  | c :: chars => by
    rw [List.flatMap_cons, decodeBytes_encodeChar, decodeBytes_flatMap_encodeChar chars, List.flatMap_cons]

theorem decode?_encode (s : String) : decode? (encode s) = some s := by
  have hbytes : (⟨(decodeBytes (encode s).toList).toArray⟩ : ByteArray) = s.toByteArray := by
    rw [encode, String.toList_ofList, decodeBytes_flatMap_encodeChar, ← String.utf8Encode_toList]
    exact ByteArray.ext List.data_toByteArray.symm
  unfold decode?
  rw [hbytes, String.fromUTF8?, dif_pos s.isValidUTF8]
  rfl

theorem encode_inj {s t : String} : encode s = encode t ↔ s = t := by
  constructor
  · intro h
    have hread := congrArg decode? h
    rw [decode?_encode, decode?_encode] at hread
    exact Option.some.inj hread
  · exact congrArg encode

end Dashboard.Text.Percent
