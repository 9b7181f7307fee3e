import RouteTemplate.Proofs.Cutting
import RouteTemplate.Text.Percent

/- Coded text is plain and can be decoded.

   Coding writes unreserved characters and `%` alone (`eq_percent_or_isUnreserved`), so coded text holds no mark at
   which a target is cut, and stands as a query value and, unless it is empty, as a segment. The bytes that it stands
   for are those of the text (`bytes_encode`), and so decoding gives the text back (`decode?_encode`). -/
namespace RouteTemplate.Text.Percent

variable {c : Char} {t : Text}

/-! ## What is written -/

theorem isUnreserved_hexDigit : ∀ n < 16, isUnreserved (hexDigit n) = true := by decide

theorem digitValue?_hexDigit : ∀ n < 16, digitValue? 16 (hexDigit n) = some n := by decide

theorem nibbles (b : UInt8) : b.toNat / 16 < 16 ∧ b.toNat % 16 < 16 := by
  have := b.toNat_lt
  omega

theorem of_mem_encodeByte {b : UInt8} (h : c ∈ encodeByte b) : c = '%' ∨ isUnreserved c = true := by
  obtain ⟨hi, lo⟩ := nibbles b
  simp only [encodeByte, List.mem_cons, List.not_mem_nil, or_false] at h
  rcases h with rfl | rfl | rfl
  · exact .inl rfl
  · exact .inr (isUnreserved_hexDigit _ hi)
  · exact .inr (isUnreserved_hexDigit _ lo)

theorem eq_percent_or_isUnreserved (h : c ∈ encode t) : c = '%' ∨ isUnreserved c = true := by
  obtain ⟨d, -, hc⟩ := List.mem_flatMap.mp h
  unfold encodeChar at hc
  split at hc
  · next plain =>
    rw [List.mem_singleton.mp hc]
    exact .inr plain
  · obtain ⟨b, -, hb⟩ := List.mem_flatMap.mp hc
    exact of_mem_encodeByte hb

/-- A reserved character stands in no coded text. -/
theorem not_mem_encode (hpercent : c ≠ '%') (hc : isUnreserved c = false) : c ∉ encode t := by
  intro h
  rcases eq_percent_or_isUnreserved h with heq | plain
  · exact hpercent heq
  · rw [hc] at plain
    cases plain

theorem encodeChar_ne_nil (c : Char) : encodeChar c ≠ [] := by
  unfold encodeChar
  split
  · simp
  · intro h
    have bytes : String.utf8EncodeChar c ≠ [] := List.ne_nil_of_length_pos (by
      rw [String.length_utf8EncodeChar]
      exact c.utf8Size_pos)
    obtain ⟨b, hb⟩ := List.exists_mem_of_ne_nil _ bytes
    have := List.flatMap_eq_nil_iff.mp h b hb
    cases this

theorem encode_ne_nil (h : t ≠ []) : encode t ≠ [] := by
  obtain ⟨c, hc⟩ := List.exists_mem_of_ne_nil t h
  exact fun hnil => encodeChar_ne_nil c (List.flatMap_eq_nil_iff.mp hnil c hc)

theorem isSegment_encode (h : t ≠ []) : IsSegment (encode t) where
  nonempty := encode_ne_nil h
  slash := not_mem_encode (by decide) (by decide)
  mark := not_mem_encode (by decide) (by decide)
  hash := not_mem_encode (by decide) (by decide)

theorem isQueryValue_encode (t : Text) : IsQueryValue (encode t) where
  ampersand := not_mem_encode (by decide) (by decide)
  hash := not_mem_encode (by decide) (by decide)

/-! ## What is read back -/

theorem bytes_plain (h : c ≠ '%') (rest : Text) : bytes (c :: rest) = String.utf8EncodeChar c ++ bytes rest := by
  rw [bytes]
  exact fun _ _ _ heq => absurd heq h

theorem bytes_encodeByte (b : UInt8) (rest : Text) : bytes (encodeByte b ++ rest) = b :: bytes rest := by
  obtain ⟨hi, lo⟩ := nibbles b
  have whole : UInt8.ofNat (16 * (b.toNat / 16) + b.toNat % 16) = b := by
    rw [Nat.div_add_mod, UInt8.ofNat_toNat]
  simp only [encodeByte, List.cons_append, List.nil_append, bytes, digitValue?_hexDigit _ hi,
    digitValue?_hexDigit _ lo, whole]

theorem bytes_flatMap_encodeByte (bs : List UInt8) (rest : Text) :
    bytes (bs.flatMap encodeByte ++ rest) = bs ++ bytes rest := by
  induction bs with
  | nil => rfl
  | cons b bs ih => rw [List.flatMap_cons, List.append_assoc, bytes_encodeByte, ih, List.cons_append]

theorem bytes_encodeChar (c : Char) (rest : Text) :
    bytes (encodeChar c ++ rest) = String.utf8EncodeChar c ++ bytes rest := by
  unfold encodeChar
  split
  · next plain => exact bytes_plain (fun heq => by rw [heq] at plain; exact absurd plain (by decide)) rest
  · exact bytes_flatMap_encodeByte _ rest

theorem bytes_encode (t : Text) : bytes (encode t) = t.flatMap String.utf8EncodeChar := by
  induction t with
  | nil => rfl
  | cons c t ih => rw [encode, List.flatMap_cons, bytes_encodeChar, ← encode, ih, List.flatMap_cons]

/-- Decoding gives back what was coded. -/
theorem decode?_encode (t : Text) : decode? (encode t) = some t := by
  have whole : (t.flatMap String.utf8EncodeChar).toByteArray.utf8Decode? = some t.toArray :=
    List.utf8Decode?_utf8Encode
  rw [decode?, bytes_encode, whole, Option.map_some, List.toList_toArray]

end RouteTemplate.Text.Percent
