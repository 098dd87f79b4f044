import SessionBus.Packet

/-!
# Payloads

What an application hands over to be sent, before it is JSON.  Whole numbers have to fit 64 bits, a
floating-point number that is not finite becomes `null`, the keys of a dictionary become strings if
they are scalars, and the application's own conversion may fail with a text.
-/

namespace SessionBus

open Json (Cause Error)

/-- A key of a dictionary. -/
inductive PayloadKey where
  | text (value : String)
  | integer (value : Int)
  | bool (value : Bool)
  | structured
deriving DecidableEq, Repr

/-- A value of an application. -/
inductive Payload where
  | null
  | bool (value : Bool)
  | integer (value : Int)
  | float (value : Option Binary64)
  | text (value : String)
  | list (items : List Payload)
  | dictionary (entries : List (PayloadKey × Payload))
  | document (tree : Json)
  | failing (reason : String)

namespace Payload

/-- The digits at the start of a text, as a number, with the rest. -/
def leadingNumber (text : List Char) : Option (Nat × List Char) :=
  let digits := text.takeWhile Json.isDigit
  (Text.digits? UInt64.size digits).map fun n => (n, text.drop digits.length)

/-- The position at the end of a text, if the whole of it has the form `line L column C`. -/
def positionOf? (text : List Char) : Option Json.Position := do
  let (line, rest) ← leadingNumber text
  let separator := " column ".toList
  if separator.isPrefixOf rest then
    let (column, rest) ← leadingNumber (rest.drop separator.length)
    if rest.isEmpty then some ⟨line, column⟩ else none
  else none

/--
Splits a text at the last place where `mark` stands; the mark belongs to neither part.  `before` is
what has been passed, in reverse, and `found` the last place seen so far.
-/
def splitLast (mark before : List Char) (found : Option (List Char × List Char)) :
    List Char → Option (List Char × List Char)
  | [] => found
  | c :: rest =>
    let found :=
      if mark.isPrefixOf (c :: rest) then some (before, (c :: rest).drop mark.length) else found
    splitLast mark (c :: before) found rest

/--
The error of a conversion that failed with a text.  A position at the end of the text counts as the
position of the error, which is only shown when its line is not zero.
-/
def failure (reason : String) : Error :=
  match splitLast " at line ".toList [] none reason.toList with
  | none => ⟨.custom reason, none⟩
  | some (before, after) =>
    match positionOf? after with
    | none => ⟨.custom reason, none⟩
    | some place =>
      ⟨.custom (String.ofList before.reverse), if place.line = 0 then none else some place⟩

def keyName : PayloadKey → Except Error String
  | .text value => .ok value
  | .integer value => .ok (String.ofList (Json.Number.text (.integer value)))
  | .bool true => .ok "true"
  | .bool false => .ok "false"
  | .structured => .error ⟨.keyMustBeString, none⟩

mutual

def toJson : Payload → Except Error Json
  | .null => .ok .null
  | .bool value => .ok (.bool value)
  | .integer value =>
    if -Text.int64Bound ≤ value ∧ value < UInt64.size then .ok (.integer value)
    else .error ⟨.numberOutOfRange, none⟩
  | .float none => .ok .null
  | .float (some value) => .ok (.float value)
  | .text value => .ok (.string value)
  | .list items => do return .array (← itemsToJson [] items)
  | .dictionary entries => do return .object (← entriesToJson [] entries)
  | .document tree => .ok tree
  | .failing reason => .error (failure reason)

/-- The documents of items, after those that are already done, which stand in reverse. -/
def itemsToJson (done : List Json) : List Payload → Except Error (List Json)
  | [] => .ok done.reverse
  | item :: rest => do itemsToJson ((← item.toJson) :: done) rest

/-- The members of entries, after those that are already done, which stand in reverse. -/
def entriesToJson (done : List (String × Json)) :
    List (PayloadKey × Payload) → Except Error (List (String × Json))
  | [] => .ok done.reverse
  | (key, value) :: rest => do
    let name ← keyName key
    entriesToJson ((name, ← value.toJson) :: done) rest

end

/-- The data of a packet on a topic that carries the payload. -/
def encode (topic : String) (payload : Payload) : Except PayloadError Json.Value :=
  match payload.toJson with
  | .ok tree => .ok tree.toValue
  | .error error => .error ⟨topic, error⟩

end Payload

end SessionBus
