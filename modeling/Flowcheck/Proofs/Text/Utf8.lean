import Flowcheck.Text.Utf8

/-!
# Decoding undoes encoding

Every text can be written as bytes and read back (`decodeUtf8_encodeUtf8`). The decoder works byte
by byte and knows only what the lead byte has announced, so each of the four lengths of an encoded
character is followed through its bytes; what the lead announces about the range of the second byte
is where the shortest form and the absence of surrogates come in.
-/

namespace Flowcheck.Text

/-! ## Bytes in a row -/

theorem toList_loop (bytes : ByteArray) (i : Nat) (seen : List UInt8) :
    ByteArray.toList.loop bytes i seen = seen.reverse ++ bytes.data.toList.drop i := by
  induction i, seen using ByteArray.toList.loop.induct bytes with
  | case1 i seen more ih =>
    have bound : i < bytes.data.toList.length := by simpa using more
    have here : bytes.get! i = bytes.data.toList[i] := by
      rw [Array.getElem_toList]
      exact getElem!_pos bytes.data i more
    rw [ByteArray.toList.loop, if_pos more, ih, List.drop_eq_getElem_cons bound, here,
      List.reverse_cons, List.append_assoc, List.singleton_append]
  | case2 i seen done =>
    have bound : bytes.data.toList.length ≤ i := by simpa using done
    rw [ByteArray.toList.loop, if_neg done, List.drop_eq_nil_of_le bound, List.append_nil]

/-- The bytes of a text are those of its characters in turn. -/
theorem encodeUtf8_ofList (cs : List Char) :
    encodeUtf8 (String.ofList cs) = cs.flatMap String.utf8EncodeChar := by
  rw [encodeUtf8, String.toUTF8_eq_toByteArray, String.toByteArray_ofList, ByteArray.toList,
    toList_loop]
  simp [List.utf8Encode]

/-! ## One byte of a sequence -/

theorem toNat_byte {n : Nat} (bound : n < 256) : (UInt8.ofNat n).toNat = n :=
  UInt8.toNat_ofNat_of_lt' bound

section Sequence

variable {position n : Nat} {rest : List UInt8} {p : Utf8Partial}

theorem decodeUtf8From_ascii (h : n < 0x80) :
    decodeUtf8From position none (UInt8.ofNat n :: rest) =
      (Char.ofNat n :: ·) <$> decodeUtf8From (position + 1) none rest := by
  have value : (UInt8.ofNat n).toNat = n := toNat_byte (by omega)
  rw [decodeUtf8From, value, if_pos h]

theorem decodeUtf8From_lead {lead : Utf8Lead} (bound : n < 256) (long : 0x80 ≤ n)
    (h : utf8Lead? (UInt8.ofNat n) = some lead) :
    decodeUtf8From position none (UInt8.ofNat n :: rest) =
      decodeUtf8From (position + 1)
        (some ⟨[UInt8.ofNat n], lead.bits, lead.low, lead.high, lead.further⟩) rest := by
  have value : (UInt8.ofNat n).toNat = n := toNat_byte bound
  rw [decodeUtf8From, value, if_neg (by omega), h]

theorem decodeUtf8From_next {further : Nat} (bound : n < 256) (low : p.low ≤ n)
    (high : n ≤ p.high) (more : p.further = further + 1) :
    decodeUtf8From position (some p) (UInt8.ofNat n :: rest) =
      decodeUtf8From (position + 1)
        (some ⟨UInt8.ofNat n :: p.seen, p.bits * 64 + (n - 0x80), 0x80, 0xbf, further⟩) rest := by
  have value : (UInt8.ofNat n).toNat = n := toNat_byte bound
  rw [decodeUtf8From, value, if_pos ⟨low, high⟩]
  simp only [more]

theorem decodeUtf8From_last (bound : n < 256) (low : p.low ≤ n) (high : n ≤ p.high)
    (last : p.further = 0) :
    decodeUtf8From position (some p) (UInt8.ofNat n :: rest) =
      (Char.ofNat (p.bits * 64 + (n - 0x80)) :: ·) <$>
        decodeUtf8From (position + 1) none rest := by
  have value : (UInt8.ofNat n).toNat = n := toNat_byte bound
  rw [decodeUtf8From, value, if_pos ⟨low, high⟩]
  simp only [last]

/-! ## Lead bytes -/

theorem utf8Lead?_two (low : 0xc2 ≤ n) (high : n < 0xe0) :
    utf8Lead? (UInt8.ofNat n) = some ⟨n - 0xc0, 0x80, 0xbf, 0⟩ := by
  have value : (UInt8.ofNat n).toNat = n := toNat_byte (by omega)
  simp only [utf8Lead?, value]
  rw [if_neg (by omega), if_pos high]

theorem utf8Lead?_three (low : 0xe0 ≤ n) (high : n < 0xf0) :
    utf8Lead? (UInt8.ofNat n) =
      some ⟨n - 0xe0, if n = 0xe0 then 0xa0 else 0x80, if n = 0xed then 0x9f else 0xbf, 1⟩ := by
  have value : (UInt8.ofNat n).toNat = n := toNat_byte (by omega)
  simp only [utf8Lead?, value]
  rw [if_neg (by omega), if_neg (by omega), if_pos high]

theorem utf8Lead?_four (low : 0xf0 ≤ n) (high : n < 0xf5) :
    utf8Lead? (UInt8.ofNat n) =
      some ⟨n - 0xf0, if n = 0xf0 then 0x90 else 0x80, if n = 0xf4 then 0x8f else 0xbf, 2⟩ := by
  have value : (UInt8.ofNat n).toNat = n := toNat_byte (by omega)
  simp only [utf8Lead?, value]
  rw [if_neg (by omega), if_neg (by omega), if_neg (by omega), if_pos high]

end Sequence

/-! ## One character -/

/-- The numbers of characters leave out the surrogates and end with the last plane. -/
theorem toNat_valid (c : Char) : c.toNat < 0xd800 ∨ (0xdfff < c.toNat ∧ c.toNat < 0x110000) :=
  c.valid

/-- **The bytes of a character decode to it**, whatever follows them. -/
theorem decodeUtf8From_char_append (c : Char) (rest : List UInt8) (position : Nat) :
    ∃ position', decodeUtf8From position none (String.utf8EncodeChar c ++ rest) =
      (c :: ·) <$> decodeUtf8From position' none rest := by
  have valid := toNat_valid c
  have back : Char.ofNat c.toNat = c := Char.ofNat_toNat c
  rw [String.utf8EncodeChar, show c.val.toNat = c.toNat from rfl]
  generalize c.toNat = v at valid back
  split
  · refine ⟨position + 1, ?_⟩
    rw [List.singleton_append, decodeUtf8From_ascii (by omega), back]
  split
  · refine ⟨position + 1 + 1, ?_⟩
    have lead := utf8Lead?_two (n := v / 64 % 32 + 192) (by omega) (by omega)
    have whole : (v / 64 % 32 + 192 - 0xc0) * 64 + (v % 64 + 128 - 0x80) = v := by omega
    rw [List.cons_append, decodeUtf8From_lead (by omega) (by omega) lead, List.singleton_append,
      decodeUtf8From_last (by omega) (by dsimp only; omega) (by dsimp only; omega) rfl, whole, back]
  split
  · refine ⟨position + 1 + 1 + 1, ?_⟩
    have lead := utf8Lead?_three (n := v / 4096 % 16 + 224) (by omega) (by omega)
    have whole : ((v / 4096 % 16 + 224 - 0xe0) * 64 + (v / 64 % 64 + 128 - 0x80)) * 64 +
        (v % 64 + 128 - 0x80) = v := by omega
    rw [List.cons_append, decodeUtf8From_lead (by omega) (by omega) lead, List.cons_append,
      decodeUtf8From_next (by omega) (by dsimp only; split <;> omega)
        (by dsimp only; split <;> omega) rfl,
      List.singleton_append, decodeUtf8From_last (by omega) (by dsimp only; omega)
        (by dsimp only; omega) rfl, whole, back]
  · refine ⟨position + 1 + 1 + 1 + 1, ?_⟩
    have lead := utf8Lead?_four (n := v / 262144 % 8 + 240) (by omega) (by omega)
    have whole : (((v / 262144 % 8 + 240 - 0xf0) * 64 + (v / 4096 % 64 + 128 - 0x80)) * 64 +
        (v / 64 % 64 + 128 - 0x80)) * 64 + (v % 64 + 128 - 0x80) = v := by omega
    rw [List.cons_append, decodeUtf8From_lead (by omega) (by omega) lead, List.cons_append,
      decodeUtf8From_next (by omega) (by dsimp only; split <;> omega)
        (by dsimp only; split <;> omega) rfl,
      List.cons_append, decodeUtf8From_next (by omega) (by dsimp only; omega)
        (by dsimp only; omega) rfl,
      List.singleton_append, decodeUtf8From_last (by omega) (by dsimp only; omega)
        (by dsimp only; omega) rfl, whole, back]

/-! ## Texts -/

theorem decodeUtf8From_flatMap (cs : List Char) (position : Nat) :
    decodeUtf8From position none (cs.flatMap String.utf8EncodeChar) = .ok cs := by
  induction cs generalizing position with
  | nil => rfl
  | cons c cs ih =>
    obtain ⟨position', run⟩ :=
      decodeUtf8From_char_append c (cs.flatMap String.utf8EncodeChar) position
    rw [List.flatMap_cons, run, ih]
    rfl

/-- **Decoding undoes encoding.** -/
theorem decodeUtf8_encodeUtf8 (text : String) : decodeUtf8 (encodeUtf8 text) = .ok text.toList := by
  have bytes : encodeUtf8 text = text.toList.flatMap String.utf8EncodeChar := by
    rw [← encodeUtf8_ofList, String.ofList_toList]
  rw [bytes, decodeUtf8, decodeUtf8From_flatMap]

/-- A text that was written to a file is read with its line ends unified. -/
theorem readText_encodeUtf8 (text : String) :
    readText (encodeUtf8 text) = .ok (String.ofList (unifyNewlines text.toList)) := by
  rw [readText, decodeUtf8_encodeUtf8]
  rfl

end Flowcheck.Text
