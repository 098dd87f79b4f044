/-!
# The bytes of a text

A text is sent as its UTF-8 bytes.  An ASCII byte belongs to its own character only, so a text
without line feeds has no such byte, and the bytes of a text are read as that text.
-/

namespace SessionBus.Text

/-- The bytes of a text are those of its characters. -/
theorem bytes_eq (text : String) :
    text.toUTF8.toList = text.toList.flatMap String.utf8EncodeChar := by
  have loop : ∀ (bytes : ByteArray) (i : Nat) (done : List UInt8),
      ByteArray.toList.loop bytes i done = done.reverse ++ bytes.data.toList.drop i := by
    intro bytes i done
    fun_induction ByteArray.toList.loop bytes i done with
    | case1 i done inside ih =>
        have inList : i < bytes.data.toList.length := by
          simpa using inside
        rw [ih, List.drop_eq_getElem_cons inList]
        simp [ByteArray.get!, inside]
    | case2 i done outside =>
        rw [List.drop_eq_nil_of_le (by simpa using Nat.le_of_not_lt outside)]
        simp
  have encoded : text.toUTF8 = (text.toList.flatMap String.utf8EncodeChar).toByteArray := by
    rw [String.toUTF8_eq_toByteArray, ← String.utf8Encode_toList, List.utf8Encode]
  rw [encoded, ByteArray.toList, loop]
  simp

@[simp]
theorem fromUTF8?_bytes (text : String) :
    String.fromUTF8? text.toUTF8.toList.toByteArray = some text := by
  have encoded : text.toUTF8.toList.toByteArray = text.toByteArray := by
    rw [bytes_eq, ← String.utf8Encode_toList, List.utf8Encode]
  rw [encoded, String.fromUTF8?, dif_pos text.isValidUTF8]
  rfl

/-- The size of a text is the number of its bytes. -/
theorem length_bytes (text : String) : text.toUTF8.toList.length = text.utf8ByteSize := by
  have encoded : text.toByteArray = (text.toList.flatMap String.utf8EncodeChar).toByteArray := by
    rw [← String.utf8Encode_toList, List.utf8Encode]
  rw [bytes_eq, ← String.size_toByteArray, encoded, ByteArray.size, ← Array.length_toList,
    List.toList_data_toByteArray]

/-- An ASCII byte belongs to no character but its own. -/
theorem ascii_notMem_utf8EncodeChar
    {ascii : UInt8} (small : ascii.toNat < 128) {c : Char} (different : c.val.toNat ≠ ascii.toNat) :
    ascii ∉ String.utf8EncodeChar c := by
  have byte : ∀ n, n % 256 ≠ ascii.toNat → ascii ≠ UInt8.ofNat n := by
    intro n other same
    have number := congrArg UInt8.toNat same
    rw [UInt8.toNat_ofNat'] at number
    exact other number.symm
  unfold String.utf8EncodeChar
  simp only
  split
  · simp only [List.mem_singleton]
    exact byte _ (by omega)
  · split
    · simp only [List.mem_cons, List.not_mem_nil, or_false, not_or]
      exact ⟨byte _ (by omega), byte _ (by omega)⟩
    · split
      · simp only [List.mem_cons, List.not_mem_nil, or_false, not_or]
        exact ⟨byte _ (by omega), byte _ (by omega), byte _ (by omega)⟩
      · simp only [List.mem_cons, List.not_mem_nil, or_false, not_or]
        exact ⟨byte _ (by omega), byte _ (by omega), byte _ (by omega), byte _ (by omega)⟩

theorem toNat_ne {c other : Char} (different : c ≠ other) : c.val.toNat ≠ other.val.toNat :=
  fun same => different (Char.ext (UInt32.toNat_inj.mp same))

/-- A text without line feeds has no byte of a line feed. -/
theorem lineFeed_notMem_bytes {text : String} (noLineFeed : '\n' ∉ text.toList) :
    (10 : UInt8) ∉ text.toUTF8.toList := by
  rw [bytes_eq, List.mem_flatMap]
  rintro ⟨c, inside, here⟩
  have different : c ≠ '\n' := by
    rintro rfl
    exact noLineFeed inside
  exact ascii_notMem_utf8EncodeChar (by decide) (toNat_ne different) here

end SessionBus.Text
