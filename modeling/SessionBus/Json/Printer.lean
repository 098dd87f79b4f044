import SessionBus.Json.Basic

/-!
# Written JSON

`Json.compact` writes a document without a single blank; `Json.pretty` writes it on indented lines.
Inside a string only quotes, backslashes and the controls below U+0020 are escaped, five of the
controls by a letter and the others by four hexadecimal digits.

Both append to a string that is already there, so that a document is written in one pass.
-/

namespace SessionBus.Json

def hexDigit (n : Nat) : Char :=
  Nat.digitChar n

/-- The written form of a character inside a string. -/
def escapedChar (c : Char) : List Char :=
  if c = '"' then ['\\', '"']
  else if c = '\\' then ['\\', '\\']
  else if 0x20 ≤ c.toNat then [c]
  else if c.toNat = 0x8 then ['\\', 'b']
  else if c.toNat = 0xc then ['\\', 'f']
  else if c = '\n' then ['\\', 'n']
  else if c = '\r' then ['\\', 'r']
  else if c = '\t' then ['\\', 't']
  else ['\\', 'u', '0', '0', hexDigit (c.toNat / 16), hexDigit (c.toNat % 16)]

def pushAll (out : String) (text : List Char) : String :=
  text.foldl String.push out

def pushString (out : String) (text : String) : String :=
  (text.toList.foldl (fun out c => pushAll out (escapedChar c)) (out.push '"')).push '"'

def Number.text : Number → List Char
  | .integer (.ofNat n) => Nat.toDigits 10 n
  | .integer (.negSucc n) => '-' :: Nat.toDigits 10 (n + 1)
  | .float x => x.text

mutual

/-- Appends the compact form of a document. -/
def pushCompact (out : String) : Json → String
  | .null => out ++ "null"
  | .bool true => out ++ "true"
  | .bool false => out ++ "false"
  | .number n => pushAll out n.text
  | .string s => pushString out s
  | .array items => (pushCompactItems (out.push '[') true items).push ']'
  | .object members => (pushCompactMembers (out.push '\x7b') true members).push '\x7d'

/-- Appends the items of an array, each but the first after a comma. -/
def pushCompactItems (out : String) (first : Bool) : List Json → String
  | [] => out
  | item :: rest =>
    let out := if first then out else out.push ','
    pushCompactItems (pushCompact out item) false rest

/-- Appends the members of an object, each but the first after a comma. -/
def pushCompactMembers (out : String) (first : Bool) : List (String × Json) → String
  | [] => out
  | (name, value) :: rest =>
    let out := if first then out else out.push ','
    pushCompactMembers (pushCompact ((pushString out name).push ':') value) false rest

end

/-- The document on one line without blanks. -/
def compact (document : Json) : String :=
  pushCompact "" document

/-- Appends a line end and the blanks of an indentation level. -/
def pushLine (out : String) (level : Nat) : String :=
  pushAll (out.push '\n') (List.replicate (2 * level) ' ')

mutual

/-- Appends the indented form of a document that stands at an indentation level. -/
def pushPretty (level : Nat) (out : String) : Json → String
  | .array [] => out ++ "[]"
  | .object [] => out ++ "\x7b\x7d"
  | .array items =>
    (pushLine (pushPrettyItems (level + 1) (out.push '[') true items) level).push ']'
  | .object members =>
    (pushLine (pushPrettyMembers (level + 1) (out.push '\x7b') true members) level).push '\x7d'
  | leaf => pushCompact out leaf

/-- Appends the items of an array, each on a line of its own. -/
def pushPrettyItems (level : Nat) (out : String) (first : Bool) : List Json → String
  | [] => out
  | item :: rest =>
    let out := pushLine (if first then out else out.push ',') level
    pushPrettyItems level (pushPretty level out item) false rest

/-- Appends the members of an object, each on a line of its own. -/
def pushPrettyMembers (level : Nat) (out : String) (first : Bool) :
    List (String × Json) → String
  | [] => out
  | (name, value) :: rest =>
    let out := pushLine (if first then out else out.push ',') level
    pushPrettyMembers level (pushPretty level (pushString out name ++ ": ") value) false rest

end

def pretty (document : Json) : String :=
  pushPretty 0 "" document

end SessionBus.Json
