import SessionBus.Json.Canonical
import SessionBus.Json.Skip

/-!
# Decoders

A decoder turns JSON into a value of a domain type, in two ways that accept the same documents:
from the text itself, so that a fault has a place in it, and from a document that is already there.
A document is there either because it was buffered while a reader looked for the tag of a union, or
because it is stored as a value; the two differ in a few corners, which `Origin` names.

This module holds decoders of scalars, lists and dictionaries; `Json.Fields` and `Json.Union` build
those of records and unions from them.
-/

namespace SessionBus.Json

/-- Where a document comes from that is decoded. -/
inductive Origin where
  | buffered
  | stored
deriving DecidableEq, Repr

/-- A decoder of `α`: from a text with a number of levels left, and from a document. -/
structure Decoder (α : Type) where
  text : Nat → Reader α
  tree : Origin → Json → Except Cause α

namespace Decoder

/-- The result of a reader, or an unplaced fault where it stopped. -/
def atRest {α : Type} (result : Except Cause α) : Reader α := fun rest =>
  match result with
  | .ok value => .ok (value, rest)
  | .error cause => .error (.unplaced cause rest)

/-- Gives the faults of a reader a place. -/
def settled {α : Type} (reader : Reader α) : Reader α := fun text =>
  (reader text).mapError Fault.settle

/-- Reads a value without brackets and lets `accept` judge it. -/
def headThen {α : Type} (accept : Json → Except Cause α) : Reader α :=
  settled fun text => do
    let (head, rest) ← readHead text
    atRest (accept head) rest

def scalar {α : Type} (accept : Json → Except Cause α) : Decoder α where
  text _ := headThen accept
  tree _ := accept

/-- The refusal of a document of the wrong kind. -/
def wrongType {α : Type} (expected : String) (document : Json) : Except Cause α :=
  .error (.invalidType document.found expected)

/-- The refusal of a document of the right kind. -/
def wrongValue {α : Type} (expected : String) (document : Json) : Except Cause α :=
  .error (.invalidValue document.found expected)

/-- Applies a function to what a decoder yields. -/
def map {α β : Type} (f : α → β) (decoder : Decoder α) : Decoder β where
  text levels text := do
    let (value, rest) ← decoder.text levels text
    return (f value, rest)
  tree origin document := (decoder.tree origin document).map f

/-- A decoder of whole numbers between two bounds. -/
def wholeNumber (expected : String) (least greatest : Int) : Decoder Int :=
  scalar fun document =>
    match document with
    | .number (.integer n) =>
      if least ≤ n ∧ n ≤ greatest then .ok n else wrongValue expected document
    | _ => wrongType expected document

def uint8 : Decoder UInt8 :=
  (wholeNumber "u8" 0 255).map fun n => UInt8.ofNat n.toNat

def uint16 : Decoder UInt16 :=
  (wholeNumber "u16" 0 65535).map fun n => UInt16.ofNat n.toNat

def uint32 : Decoder UInt32 :=
  (wholeNumber "u32" 0 4294967295).map fun n => UInt32.ofNat n.toNat

def uint64 : Decoder UInt64 :=
  (wholeNumber "u64" 0 18446744073709551615).map fun n => UInt64.ofNat n.toNat

def int64 : Decoder Int :=
  wholeNumber "i64" (-9223372036854775808) 9223372036854775807

/-- Floating-point numbers; an integer counts as the nearest one. -/
def float64 : Decoder Binary64 :=
  scalar fun document =>
    match document with
    | .number (.float x) => .ok x
    | .number (.integer n) => .ok ((Binary64.ofInt? n).getD default)
    | _ => wrongType "f64" document

def bool : Decoder Bool :=
  scalar fun document =>
    match document with
    | .bool b => .ok b
    | _ => wrongType "a boolean" document

def string : Decoder String :=
  scalar fun document =>
    match document with
    | .string s => .ok s
    | _ => wrongType "a string" document

def char : Decoder Char :=
  scalar fun document =>
    match document with
    | .string s =>
      match s.toList with
      | [c] => .ok c
      | _ => wrongValue "a character" document
    | _ => wrongType "a character" document

/-- The unit value, written `null`; a buffered empty object is one, too. -/
def unit : Decoder Unit where
  text _ := headThen accept
  tree
    | .buffered, .object [] => .ok ()
    | _, document => accept document
where
  accept (document : Json) : Except Cause Unit :=
    match document with
    | .null => .ok ()
    | _ => wrongType "unit" document

/-- Values that may be absent, written `null`. -/
def nullable {α : Type} (decoder : Decoder α) : Decoder (Option α) where
  text levels text :=
    match skipSpace text with
    | 'n' :: rest => do
      let ((), rest) ← readIdent ['u', 'l', 'l'] rest
      return (none, rest)
    | text => do
      let (value, rest) ← decoder.text levels text
      return (some value, rest)
  tree origin
    | .null => .ok none
    | document => (decoder.tree origin document).map some

def document : Decoder Json where
  text := readJson
  tree _ := .ok

/-- Any document in its canonical form. -/
def value : Decoder Value :=
  document.map toValue

/-- Reads the opening of an array or object; all else is refused as not being what is expected. -/
def openingThen {α : Type} (expected : String) (ifArray ifObject : Option (Reader α)) :
    Reader α := fun text =>
  let text := skipSpace text
  match text.head?, ifArray, ifObject with
  | some '[', some reader, _ => reader text
  | some '\x7b', _, some reader => reader text
  | _, _, _ => headThen (wrongType expected) text

def list {α : Type} (item : Decoder α) : Decoder (List α) where
  text levels :=
    openingThen "a sequence"
      (some (enclosed levels closeArray fun levels text => do
        let (items, rest) ← readItems (fun items text => do
          let (value, rest) ← item.text levels text
          return (value :: items, rest)) text true [] text
        return (items.reverse, rest)))
      none
  tree origin
    | .array items => items.mapM (item.tree origin)
    | document => wrongType "a sequence" document

/-- Pairs, written as lists of two items; a longer list is refused as such. -/
def pair {α β : Type} (left : Decoder α) (right : Decoder β) : Decoder (α × β) where
  text levels :=
    openingThen expected
      (some (enclosed levels closeArray fun levels text => do
        let (more, rest) ← nextItem true text
        if !more then .error (.unplaced (.invalidLength 0 expected) rest)
        let (a, rest) ← left.text levels rest
        let (more, rest) ← nextItem false rest
        if !more then .error (.unplaced (.invalidLength 1 expected) rest)
        let (b, rest) ← right.text levels rest
        return ((a, b), rest)))
      none
  tree origin
    | .array [] => .error (.invalidLength 0 expected)
    | .array [item] => do
      let _ ← left.tree origin item
      .error (.invalidLength 1 expected)
    | .array (first :: second :: rest) => do
      let a ← left.tree origin first
      let b ← right.tree origin second
      if rest.isEmpty then return (a, b)
      else .error (leftover origin (rest.length + 2) 2)
    | document => wrongType expected document
where
  expected : String := "a tuple of size 2"
  leftover : Origin → Nat → Nat → Cause
    | .buffered, total, count =>
      .invalidLength total (String.ofList (Nat.toDigits 10 count) ++ " elements in sequence")
    | .stored, total, _ => .invalidLength total "fewer elements in array"

/-- Dictionaries from names to values that `item` decodes, in the order of the members. -/
def dictionary {α : Type} (item : Decoder α) : Decoder (List (String × α)) where
  text levels :=
    openingThen "a map" none
      (some (enclosed levels closeObject fun levels text => do
        let (members, rest) ← readMembers (fun name members text => do
          let ((), rest) ← readColon text
          let (value, rest) ← item.text levels rest
          return ((name, value) :: members, rest)) text true [] text
        return (members.reverse, rest)))
  tree origin
    | .object members => members.mapM fun (name, value) => do
      return (name, ← item.tree origin value)
    | document => wrongType "a map" document

def decode {α : Type} (decoder : Decoder α) (text : String) : Except Error α :=
  readWhole (decoder.text maxLevels) text.toList

/-- Decodes a stored value. -/
def ofValue {α : Type} (decoder : Decoder α) (value : Value) : Except Cause α :=
  decoder.tree .stored value.document

end Decoder

end SessionBus.Json
