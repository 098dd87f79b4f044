import SessionBus.Json.Fields

/-!
# Unions and choices

A union is an object whose tag, a member of a fixed name, tells which variant its other members
belong to.  The tag may stand anywhere, so the members around it are buffered first.  A union may
also be written as an array that starts with the tag.

A choice is one of several plain names.
-/

namespace SessionBus.Json

/--
A variant of a union: the name that the tag gives, and how its value is made from the members
beside the tag or from the items after it.
-/
structure Variant (α : Type) where
  name : String
  ofMembers : List (String × Json) → Except Cause α
  ofItems : List Json → Except Cause α

namespace Variant

/-- A variant without content; members beside the tag do not matter, but items after it do. -/
def bare {α : Type} (name : String) (value : α) : Variant α where
  name := name
  ofMembers _ := .ok value
  ofItems items :=
    if items.isEmpty then .ok value else .error (Fields.tooManyItems .buffered items.length 0)

/-- A variant with the fields of a record, which a message calls `struct variant title`. -/
def record {α : Type} (name title : String) (fields : Fields α) : Variant α where
  name := name
  ofMembers := fields.ofMembers .buffered
  ofItems := fields.ofItems ("struct variant " ++ title) .buffered

end Variant

namespace Union

/-- What a message calls the tag of a union. -/
def tagExpected : String := "variant identifier"

/-- Finds a variant by its tag.  In a buffered union a number is the index of a variant. -/
def variantOf {α : Type} (variants : List (Variant α)) (byIndex : Bool) (tag : Json) :
    Except Cause (Variant α) :=
  match tag with
  | .string name =>
    match variants.find? (·.name == name) with
    | some variant => .ok variant
    | none => .error (.unknownVariant name (variants.map (·.name)))
  | .number (.integer (.ofNat index)) =>
    if byIndex then
      match variants[index]? with
      | some variant => .ok variant
      | none => Decoder.wrongValue (indexExpected variants.length) tag
    else Decoder.wrongType tagExpected tag
  | _ => Decoder.wrongType tagExpected tag
where
  indexExpected (count : Nat) : String :=
    "variant index 0 <= i < " ++ String.ofList (Nat.toDigits 10 count)

/-- The variant found so far, if any, and the members beside the tag in reverse. -/
abbrev Partial (α : Type) := Option (Variant α) × List (String × Json)

/-- Takes up a member of a union. -/
def takeMember {α : Type} (tag : String) (variants : List (Variant α)) (origin : Origin)
    (found : Partial α) (member : String × Json) : Except Cause (Partial α) :=
  if member.1 = tag then
    match found.1 with
    | some _ => .error (.duplicateField tag)
    | none => do
      return (some (← variantOf variants (origin == .buffered) member.2), found.2)
  else .ok (found.1, member :: found.2)

def ofTree {α : Type} (name tag : String) (variants : List (Variant α)) (origin : Origin) :
    Json → Except Cause α
  | .object members => do
    let (variant, others) ← members.foldlM (takeMember tag variants origin) (none, [])
    match variant with
    | none => .error (.missingField tag)
    | some variant => variant.ofMembers others.reverse
  | .array [] => .error (.missingField tag)
  | .array (first :: items) => do
    (← variantOf variants (origin == .buffered) first).ofItems items
  | document => Decoder.wrongType ("internally tagged enum " ++ name) document

/-- Reads a member of a union from its text, which starts before the colon. -/
def readMember {α : Type} (tag : String) (variants : List (Variant α)) (levels : Nat)
    (name : String) (found : Partial α) : Reader (Partial α) := fun text =>
  if name = tag then
    match found.1 with
    | some _ => .error (.unplaced (.duplicateField tag) text)
    | none => do
      let ((), rest) ← readColon text
      let (variant, rest) ← Decoder.headThen (variantOf variants false) rest
      return ((some variant, found.2), rest)
  else do
    let ((), rest) ← readColon text
    let (value, rest) ← readJson levels rest
    return ((found.1, (name, value) :: found.2), rest)

/-- Reads a union written as an object up to its variant and the members beside the tag. -/
def readObject {α : Type} (tag : String) (variants : List (Variant α)) (levels : Nat) :
    Reader (Variant α × List (String × Json)) := fun text => do
  let ((variant, others), rest) ←
    readMembers (readMember tag variants levels) text true (none, []) text
  match variant with
  | none => .error (.unplaced (.missingField tag) rest)
  | some variant => return ((variant, others.reverse), rest)

/-- Reads a union written as an array up to its variant and the items after the tag. -/
def readArray {α : Type} (tag : String) (variants : List (Variant α)) (levels : Nat) :
    Reader (Variant α × List Json) := fun text => do
  let (more, rest) ← nextItem true text
  if !more then .error (.unplaced (.missingField tag) rest)
  let (variant, rest) ← Decoder.headThen (variantOf variants false) rest
  let (items, rest) ← readItems (fun items text => do
    let (item, rest) ← readJson levels text
    return (item :: items, rest)) rest false [] rest
  return ((variant, items.reverse), rest)

end Union

/-- The decoder of a union with the tag `tag`. -/
def Decoder.union {α : Type} (name tag : String) (variants : List (Variant α)) : Decoder α where
  text levels :=
    openingThen ("internally tagged enum " ++ name)
      (some fun text => do
        let ((variant, items), rest) ←
          enclosed levels closeArray (Union.readArray tag variants) text
        atRest (variant.ofItems items) rest)
      (some fun text => do
        let ((variant, members), rest) ←
          enclosed levels closeObject (Union.readObject tag variants) text
        atRest (variant.ofMembers members) rest)
  tree := Union.ofTree name tag variants

namespace Choice

def named {α : Type} (options : List (String × α)) (name : String) : Except Cause α :=
  match options.find? (·.1 == name) with
  | some option => .ok option.2
  | none => .error (.unknownVariant name (options.map (·.1)))

/-- Finds the value of a name that stands in a document. -/
def ofName {α : Type} (options : List (String × α)) (document : Json) : Except Cause α :=
  match document with
  | .string name => named options name
  | _ => Decoder.wrongType Union.tagExpected document

/-- The value of a document: a name, or an object with the name of one member. -/
def ofTree {α : Type} (options : List (String × α)) (origin : Origin) :
    Json → Except Cause α
  | .string name => named options name
  | .object [(name, content)] => do
    let value ← named options name
    let () ← Decoder.unit.tree origin content
    return value
  | document@(.object _) => Decoder.wrongValue "map with a single key" document
  | document => Decoder.wrongType "string or map" document

/-- Reads a name, or an object of one member with that name. -/
def readText {α : Type} (options : List (String × α)) (levels : Nat) : Reader α := fun text =>
  match skipSpace text with
  | [] => .error (.next .endInValue [])
  | '"' :: rest => Decoder.headThen (ofName options) ('"' :: rest)
  | '\x7b' :: rest =>
    if levels = 0 then .error (.next .recursionLimit ('\x7b' :: rest))
    else do
      let (value, rest) ← Decoder.headThen (ofName options) rest
      let ((), rest) ← readColon rest
      let ((), rest) ← Decoder.unit.text 0 rest
      match skipSpace rest with
      | '\x7d' :: rest => return (value, rest)
      | [] => .error (.here .endInObject [])
      | rest => .error (.here .expectedValue rest)
  | text => .error (.next .expectedValue text)

end Choice

def Decoder.choice {α : Type} (options : List (String × α)) : Decoder α where
  text := Choice.readText options
  tree := Choice.ofTree options

end SessionBus.Json
