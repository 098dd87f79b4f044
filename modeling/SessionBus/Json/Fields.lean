import SessionBus.Json.Decoder

/-!
# Records

The fields of a record are declared in an order.  A record is written as an object, whose members
may stand in any order and among members that the record does not know, or as an array of its
fields in the declared order.  A field may have a value for the case that it is left out.

`Fields α` collects what a record has to know about its fields while it is being read: a place for
every field, which is empty at first and filled once.
-/

namespace SessionBus.Json

/-- What happens when a field is left out. -/
inductive Absence (α : Type) where
  | refused
  | inObject (value : α)
  | anywhere (value : α)

/-- The ways of writing a record; an array is named in the message about a missing field. -/
inductive Form where
  | object
  | array (expected : String)

/-- The fields of a record of type `α`. -/
structure Fields (α : Type) where
  Slots : Type
  empty : Slots
  names : List String
  isFilled : String → Slots → Bool
  readText : String → Nat → Slots → Reader Slots
  readTree : String → Origin → Json → Slots → Except Cause Slots
  finish : Form → (index : Nat) → Slots → Except Cause α

namespace Fields

def one {α : Type} (name : String) (decoder : Decoder α) (absence : Absence α := .refused) :
    Fields α where
  Slots := Option α
  empty := none
  names := [name]
  isFilled _ slot := slot.isSome
  readText _ levels _ text := do
    let (value, rest) ← decoder.text levels text
    return (some value, rest)
  readTree _ origin document _ := (decoder.tree origin document).map some
  finish form index slot :=
    match slot, absence, form with
    | some value, _, _ => .ok value
    | none, .anywhere value, _ => .ok value
    | none, .inObject value, .object => .ok value
    | none, _, .object => .error (.missingField name)
    | none, _, .array expected => .error (.invalidLength index expected)

/-- Two groups of fields, one declared after the other. -/
def both {α β : Type} (first : Fields α) (second : Fields β) : Fields (α × β) where
  Slots := first.Slots × second.Slots
  empty := (first.empty, second.empty)
  names := first.names ++ second.names
  isFilled name slots :=
    if name ∈ first.names then first.isFilled name slots.1 else second.isFilled name slots.2
  readText name levels slots text :=
    if name ∈ first.names then do
      let (slot, rest) ← first.readText name levels slots.1 text
      return ((slot, slots.2), rest)
    else do
      let (slot, rest) ← second.readText name levels slots.2 text
      return ((slots.1, slot), rest)
  readTree name origin document slots :=
    if name ∈ first.names then
      (first.readTree name origin document slots.1).map fun slot => (slot, slots.2)
    else
      (second.readTree name origin document slots.2).map fun slot => (slots.1, slot)
  finish form index slots := do
    let a ← first.finish form index slots.1
    let b ← second.finish form (index + first.names.length) slots.2
    return (a, b)

/-- Applies a function to the record that the fields make. -/
def map {α β : Type} (f : α → β) (fields : Fields α) : Fields β :=
  { fields with finish := fun form index slots => (fields.finish form index slots).map f }

/-- Reads a member of a record from its text, which starts before the colon. -/
def readMember {α : Type} (fields : Fields α) (levels : Nat) (name : String)
    (slots : fields.Slots) : Reader fields.Slots := fun text =>
  if name ∈ fields.names then
    if fields.isFilled name slots then .error (.unplaced (.duplicateField name) text)
    else do
      let ((), rest) ← readColon text
      fields.readText name levels slots rest
  else do
    let ((), rest) ← readColon text
    let ((), rest) ← skipValue rest
    return (slots, rest)

/-- Reads the fields with the given names from the items of an array, as far as there are any. -/
def readInOrder {α : Type} (fields : Fields α) (levels : Nat) :
    (names : List String) → (first : Bool) → fields.Slots → Reader fields.Slots
  | [], _, slots, text => .ok (slots, text)
  | name :: names, first, slots, text => do
    let (more, rest) ← nextItem first text
    if more then
      let (slots, rest) ← fields.readText name levels slots rest
      fields.readInOrder levels names false slots rest
    else return (slots, rest)

/-- Takes up a member of an object. -/
def takeMember {α : Type} (fields : Fields α) (origin : Origin) (slots : fields.Slots)
    (member : String × Json) : Except Cause fields.Slots :=
  if member.1 ∈ fields.names then
    if fields.isFilled member.1 slots then .error (.duplicateField member.1)
    else fields.readTree member.1 origin member.2 slots
  else .ok slots

/-- Takes up the items of an array in the order of the fields; with them come the items left. -/
def takeInOrder {α : Type} (fields : Fields α) (origin : Origin) :
    (names : List String) → (items : List Json) → fields.Slots →
      Except Cause (fields.Slots × List Json)
  | name :: names, item :: items, slots => do
    fields.takeInOrder origin names items (← fields.readTree name origin item slots)
  | _, items, slots => .ok (slots, items)

/-- A number of things, the noun in the plural unless it is one. -/
def counted (count : Nat) (noun : String) : String :=
  String.ofList (Nat.toDigits 10 count) ++ " " ++ noun ++ (if count = 1 then "" else "s")

/-- What a message expects of an array with too few items. -/
def expectedItems (expected : String) (count : Nat) : String :=
  expected ++ " with " ++ counted count "element"

/-- The refusal of an array with more items than are wanted. -/
def tooManyItems (origin : Origin) (total wanted : Nat) : Cause :=
  match origin with
  | .buffered => .invalidLength total (counted wanted "element" ++ " in sequence")
  | .stored => .invalidLength total "fewer elements in array"

/-- The record of the members of an object. -/
def ofMembers {α : Type} (fields : Fields α) (origin : Origin)
    (members : List (String × Json)) : Except Cause α := do
  fields.finish .object 0 (← members.foldlM (fields.takeMember origin) fields.empty)

def ofItems {α : Type} (fields : Fields α) (expected : String) (origin : Origin)
    (items : List Json) : Except Cause α := do
  let (slots, left) ← fields.takeInOrder origin fields.names items fields.empty
  let record ← fields.finish (.array (expectedItems expected fields.names.length)) 0 slots
  if left.isEmpty then return record
  else .error (tooManyItems origin items.length fields.names.length)

/-- The record of a document, which a message calls `expected`. -/
def ofTree {α : Type} (fields : Fields α) (expected : String) (origin : Origin) :
    Json → Except Cause α
  | .object members => fields.ofMembers origin members
  | .array items => fields.ofItems expected origin items
  | document => Decoder.wrongType expected document

/-- Reads a record written as an object, after the opening brace. -/
def readObject {α : Type} (fields : Fields α) (levels : Nat) : Reader α := fun text => do
  let (slots, rest) ← readMembers (fields.readMember levels) text true fields.empty text
  Decoder.atRest (fields.finish .object 0 slots) rest

/-- Reads a record written as an array, after the opening bracket. -/
def readArray {α : Type} (fields : Fields α) (expected : String) (levels : Nat) : Reader α :=
  fun text => do
    let (slots, rest) ← fields.readInOrder levels fields.names true fields.empty text
    let form := Form.array (expectedItems expected fields.names.length)
    Decoder.atRest (fields.finish form 0 slots) rest

end Fields

/-- The decoder of a record, which a message calls `struct name`. -/
def Decoder.record {α : Type} (name : String) (fields : Fields α) : Decoder α where
  text levels :=
    openingThen ("struct " ++ name)
      (some (enclosed levels closeArray (fields.readArray ("struct " ++ name))))
      (some (enclosed levels closeObject fields.readObject))
  tree := fields.ofTree ("struct " ++ name)

end SessionBus.Json
