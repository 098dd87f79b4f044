import SessionBus.Proofs.Text.Bytes

/-!
# The order of texts

Texts are compared character by character.  UTF-8 gives the greater character the greater bytes, and
no character's bytes begin with those of another, so texts are in the order of their bytes.
-/

namespace SessionBus.Text

theorem ofNat_lt_ofNat (m n : Nat) : UInt8.ofNat m < UInt8.ofNat n ↔ m % 256 < n % 256 := by
  rw [UInt8.lt_iff_toNat_lt, UInt8.toNat_ofNat', UInt8.toNat_ofNat']

theorem ofNat_eq_ofNat (m n : Nat) : UInt8.ofNat m = UInt8.ofNat n ↔ m % 256 = n % 256 := by
  rw [← UInt8.toNat_inj, UInt8.toNat_ofNat', UInt8.toNat_ofNat']

/-- The smaller of two numbers has the smaller digits to base 64, the first that differs counting. -/
theorem div_lt_or_mod_lt {m n : Nat} (less : m < n) :
    m / 64 < n / 64 ∨ m / 64 = n / 64 ∧ m % 64 < n % 64 := by
  omega

/-- The smaller of two characters has the smaller bytes, whatever follows. -/
theorem utf8EncodeChar_append_lt
    {c d : Char} (less : c < d) (rest others : List UInt8) :
    String.utf8EncodeChar c ++ rest < String.utf8EncodeChar d ++ others := by
  have number : c.val.toNat < d.val.toNat := less
  have bound : d.val.toNat < 1114112 := by
    have valid := d.valid
    unfold UInt32.isValidChar Nat.isValidChar at valid
    omega
  have last := div_lt_or_mod_lt number
  have third : ∀ k : Nat, k / 4096 = k / 64 / 64 := fun k => (Nat.div_div_eq_div_mul k 64 64).symm
  have second : ∀ k : Nat, k / 262144 = k / 64 / 64 / 64 := by
    intro k
    rw [Nat.div_div_eq_div_mul, Nat.div_div_eq_div_mul]
  unfold String.utf8EncodeChar
  simp only [third, second]
  generalize c.val.toNat = m at number last ⊢
  generalize d.val.toNat = n at number bound last ⊢
  have middle : m / 64 < n / 64 → _ := div_lt_or_mod_lt
  have first : m / 64 / 64 < n / 64 / 64 → _ := div_lt_or_mod_lt
  -- The number of bytes grows with the character, and so does the first of them.
  repeat' split
  all_goals
    simp only [List.cons_append, List.nil_append, List.cons_lt_cons_iff, ofNat_lt_ofNat,
      ofNat_eq_ofNat]
    omega

/-- Bytes that begin alike are compared by the rest. -/
theorem append_lt_append (same : List UInt8) {rest others : List UInt8} (less : rest < others) :
    same ++ rest < same ++ others := by
  induction same with
  | nil =>
      exact less
  | cons byte same ih =>
      exact List.cons_lt_cons_iff.mpr (.inr ⟨rfl, ih⟩)

theorem flatMap_utf8EncodeChar_lt {chars others : List Char} (less : chars < others) :
    chars.flatMap String.utf8EncodeChar < others.flatMap String.utf8EncodeChar := by
  induction less with
  | @nil c rest =>
      have size := String.length_utf8EncodeChar c
      have positive := c.utf8Size_pos
      rw [List.flatMap_nil, List.flatMap_cons]
      cases bytes : String.utf8EncodeChar c with
      | nil =>
          rw [bytes, List.length_nil] at size
          omega
      | cons byte more =>
          exact .nil
  | cons _ ih =>
      rw [List.flatMap_cons, List.flatMap_cons]
      exact append_lt_append _ ih
  | rel smaller =>
      rw [List.flatMap_cons, List.flatMap_cons]
      exact utf8EncodeChar_append_lt smaller _ _

/-- The bytes of a text come before those of every greater text. -/
theorem bytes_lt_of_lt {text other : String} (less : text < other) :
    text.toUTF8.toList < other.toUTF8.toList := by
  rw [bytes_eq, bytes_eq]
  exact flatMap_utf8EncodeChar_lt less

end SessionBus.Text
