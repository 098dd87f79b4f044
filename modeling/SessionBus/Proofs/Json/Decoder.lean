import SessionBus.Json.Union
import SessionBus.Proofs.Json.Canonical
import SessionBus.Proofs.Json.RoundTrip
import SessionBus.Proofs.Fallible

/-!
# What decoders restore

A decoder restores a value from a document when it yields that value for the document, wherever the
document came from; it reads a value when it yields it for the written form of the document.  Both
properties pass from the parts of a decoder to the whole, so that the decoder of a domain type is
dealt with once its parts are.
-/

namespace SessionBus.Json

open Fallible

/-! ## Portable documents -/

/--
A document that survives being written and read: its numbers are integers of 64 bits, and at most
`levels` arrays and objects stand around a value.
-/
structure IsPortable (levels : Nat) (document : Json) : Prop where
  integers : document.onlyIntegers = true
  shallow : document.depth ≤ levels

instance (levels : Nat) (document : Json) : Decidable (document.IsPortable levels) :=
  decidable_of_iff (document.onlyIntegers = true ∧ document.depth ≤ levels)
    ⟨fun ⟨integers, shallow⟩ => ⟨integers, shallow⟩,
      fun portable => ⟨portable.integers, portable.shallow⟩⟩

@[simp]
theorem isPortable_bool (levels : Nat) (b : Bool) : (Json.bool b).IsPortable levels :=
  ⟨rfl, Nat.zero_le levels⟩

@[simp]
theorem isPortable_string (levels : Nat) (text : String) : (Json.string text).IsPortable levels :=
  ⟨rfl, Nat.zero_le levels⟩

theorem string_ne_null (text : String) : Json.string text ≠ .null := by
  simp

theorem nat_ne_null (n : Nat) : Json.nat n ≠ .null := by
  simp [nat, integer]

theorem object_ne_null (members : List (String × Json)) : Json.object members ≠ .null := by
  simp

theorem isWord_nat {n : Nat} (small : n < UInt64.size) : IsWord n := by
  have low : -(Text.int64Bound : Int) ≤ 0 := by decide
  exact ⟨Int.le_trans low (Int.natCast_nonneg n), Int.ofNat_lt.mpr small⟩

theorem isPortable_nat {n : Nat} (small : n < UInt64.size) (levels : Nat) :
    (Json.nat n).IsPortable levels := by
  have word := isWord_nat small
  constructor
  · simpa [nat, integer, onlyIntegers] using word
  · simp [nat, integer, depth]

/-- An array of portable documents is portable on one level more. -/
theorem isPortable_array
    {levels : Nat} {items : List Json} (portable : ∀ item ∈ items, item.IsPortable levels) :
    (Json.array items).IsPortable (levels + 1) := by
  have parts : itemsOnlyIntegers items = true ∧ depthOfItems items ≤ levels := by
    induction items with
    | nil =>
        exact ⟨rfl, Nat.zero_le levels⟩
    | cons item rest ih =>
        have first := portable item List.mem_cons_self
        have others := ih fun other member => portable other (List.mem_cons_of_mem item member)
        constructor
        · simp [itemsOnlyIntegers, first.integers, others.1]
        · exact Nat.max_le.mpr ⟨first.shallow, others.2⟩
  exact ⟨parts.1, Nat.succ_le_succ parts.2⟩

/-- An object of portable members is portable on one level more. -/
theorem isPortable_object
    {levels : Nat} {members : List (String × Json)}
    (portable : ∀ member ∈ members, member.2.IsPortable levels) :
    (Json.object members).IsPortable (levels + 1) := by
  have parts : membersOnlyIntegers members = true ∧ depthOfMembers members ≤ levels := by
    induction members with
    | nil =>
        exact ⟨rfl, Nat.zero_le levels⟩
    | cons member rest ih =>
        have first := portable member List.mem_cons_self
        have others := ih fun other later => portable other (List.mem_cons_of_mem member later)
        constructor
        · simp [membersOnlyIntegers, first.integers, others.1]
        · exact Nat.max_le.mpr ⟨first.shallow, others.2⟩
  exact ⟨parts.1, Nat.succ_le_succ parts.2⟩

/-- The members of a portable object are portable with one level less. -/
theorem IsPortable.members
    {levels : Nat} {members : List (String × Json)}
    (portable : (Json.object members).IsPortable (levels + 1)) :
    ∀ member ∈ members, member.2.IsPortable levels := by
  have integers : membersOnlyIntegers members = true := portable.integers
  have shallow : depthOfMembers members ≤ levels := Nat.le_of_succ_le_succ portable.shallow
  induction members with
  | nil =>
      nofun
  | cons member rest ih =>
      simp only [membersOnlyIntegers, Bool.and_eq_true] at integers
      simp only [depthOfMembers, Nat.max_le] at shallow
      rw [List.forall_mem_cons]
      exact ⟨⟨integers.1, shallow.1⟩, ih ⟨integers.2, Nat.succ_le_succ shallow.2⟩ integers.2
        shallow.2⟩

/-- A portable document is read from its written form. -/
theorem IsPortable.readJson
    {levels : Nat} {document : Json} (portable : document.IsPortable levels)
    {rest : List Char} (ends : EndsNumber rest) :
    readJson levels (document.written ++ rest) = .ok (document, rest) :=
  readJson_written levels document portable.integers portable.shallow rest ends

namespace Decoder

variable {α β : Type}

/-! ## Decoding documents -/

/-- The decoder yields the value for the document, be it buffered or stored. -/
def Restores (decoder : Decoder α) (document : Json) (value : α) : Prop :=
  ∀ origin, decoder.tree origin document = .ok value

theorem Restores.map
    {decoder : Decoder α} {document : Json} {value : α}
    (restores : decoder.Restores document value) (f : α → β) :
    (decoder.map f).Restores document (f value) := by
  intro origin
  simp [Decoder.map, restores origin, Except.map]

/-- A whole number within the bounds is restored. -/
theorem wholeNumber_restores
    {least greatest n : Int} (expected : String) (bounded : least ≤ n ∧ n ≤ greatest) :
    (wholeNumber expected least greatest).Restores (.integer n) n := by
  intro origin
  simp [wholeNumber, scalar, integer, bounded]

theorem uint16_restores (n : UInt16) : uint16.Restores (.nat n.toNat) n := by
  have small : n.toNat < 65536 := n.toNat_lt
  have bounded : (0 : Int) ≤ n.toNat ∧ (n.toNat : Int) ≤ 65535 := by omega
  have whole := (wholeNumber_restores "u16" bounded).map fun n => UInt16.ofNat n.toNat
  simpa [uint16, nat] using whole

theorem uint64_restores (n : UInt64) : uint64.Restores (.nat n.toNat) n := by
  have small : n.toNat < 18446744073709551616 := n.toNat_lt
  have bounded : (0 : Int) ≤ n.toNat ∧ (n.toNat : Int) ≤ 18446744073709551615 := by omega
  have whole := (wholeNumber_restores "u64" bounded).map fun n => UInt64.ofNat n.toNat
  simpa [uint64, nat] using whole

theorem bool_restores (b : Bool) : bool.Restores (.bool b) b :=
  fun _ => rfl

theorem string_restores (text : String) : string.Restores (.string text) text :=
  fun _ => rfl

/-- A value that may be absent is restored when it is there. -/
theorem Restores.nullable
    {decoder : Decoder α} {document : Json} {value : α}
    (restores : decoder.Restores document value) (there : document ≠ .null) :
    decoder.nullable.Restores document (some value) := by
  intro origin
  simp [Decoder.nullable, restores origin, Except.map]

theorem list_restores
    {item : Decoder α} {toJson : β → Json} {restored : β → α} {values : List β}
    (restores : ∀ value ∈ values, item.Restores (toJson value) (restored value)) :
    (list item).Restores (.array (values.map toJson)) (values.map restored) := by
  intro origin
  change (values.map toJson).mapM (item.tree origin) = .ok (values.map restored)
  induction values with
  | nil =>
      rfl
  | cons value rest ih =>
      have first := restores value List.mem_cons_self origin
      have others := ih fun other member => restores other (List.mem_cons_of_mem value member)
      simp [first, others]

/-- The value of a name is restored from that name. -/
theorem choice_restores
    {options : List (String × α)} {name : String} {value : α}
    (found : Choice.named options name = .ok value) :
    (choice options).Restores (.string name) value :=
  fun _ => found

/-! ## Reading texts -/

/-- The decoder reads the value from the written form of the document. -/
def Reads (decoder : Decoder α) (levels : Nat) (document : Json) (value : α) : Prop :=
  ∀ rest, EndsNumber rest →
    decoder.text levels (document.written ++ rest) = .ok (value, rest)

theorem Reads.map
    {decoder : Decoder α} {levels : Nat} {document : Json} {value : α}
    (reads : decoder.Reads levels document value) (f : α → β) :
    (decoder.map f).Reads levels document (f value) := by
  intro rest ends
  simp [Decoder.map, reads rest ends]

/-- A value without brackets is judged once it has been read. -/
theorem headThen_written
    {accept : Json → Except Cause α} (document : Json) {value : α}
    (leaf : document.isLeaf = true) (portable : document.onlyIntegers = true)
    (accepted : accept document = .ok value) {rest : List Char} (ends : EndsNumber rest) :
    headThen accept (document.written ++ rest) = .ok (value, rest) := by
  simp [headThen, settled, readHead_written leaf portable ends, accepted, atRest]

/-- What the decoder makes of a portable document is read from its written form. -/
def ReadsStored (decoder : Decoder α) : Prop :=
  ∀ levels document value, document.IsPortable levels →
    decoder.tree .stored document = .ok value → decoder.Reads levels document value

theorem ReadsStored.map
    {decoder : Decoder α} (reads : decoder.ReadsStored) (f : α → β) :
    (decoder.map f).ReadsStored := by
  intro levels document value portable decoded
  rcases eq_ok_of_map decoded with ⟨inner, there, rfl⟩
  exact (reads levels document inner portable there).map f

theorem wholeNumber_readsStored (expected : String) (least greatest : Int) :
    (wholeNumber expected least greatest).ReadsStored := by
  intro levels document value portable decoded rest ends
  cases document with
  | number n =>
      exact headThen_written (.number n) rfl portable.integers decoded ends
  | null | bool | string | array | object =>
      cases decoded

theorem uint16_readsStored : uint16.ReadsStored :=
  (wholeNumber_readsStored "u16" 0 65535).map fun n => UInt16.ofNat n.toNat

end Decoder

end SessionBus.Json
