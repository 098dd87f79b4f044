import SessionBus.Toml.Scalar

/-!
# Reading TOML documents

A document is a sequence of lines: comments, headers of tables, and keys with their values.  What
follows a header belongs to its table.  Arrays may run over several lines, inline tables may not.

Nesting is bounded by a number of levels; other loops carry a list that has at least as many
characters as are left, and take one from it in every round.
-/

namespace SessionBus.Toml

/-- Drops blanks, line breaks and comments; a comment must end with a line break. -/
def skipFiller (inComment : Bool) : List Char → Option (List Char)
  | [] => if inComment then none else some []
  | '\r' :: '\n' :: rest => skipFiller false rest
  | '\n' :: rest => skipFiller false rest
  | c :: rest =>
    if inComment then (if isTextChar c then skipFiller true rest else none)
    else if isSpace c then skipFiller false rest
    else if c = '#' then skipFiller true rest
    else some (c :: rest)

/-- Drops the rest of a line after its content: blanks, a comment and the line break.  At the end of
the text no line break is needed. -/
def skipLineEnd (inComment : Bool) : List Char → Option (List Char)
  | [] => some []
  | '\r' :: '\n' :: rest => some rest
  | '\n' :: rest => some rest
  | c :: rest =>
    if inComment then (if isTextChar c then skipLineEnd true rest else none)
    else if isSpace c then skipLineEnd false rest
    else if c = '#' then skipLineEnd true rest
    else none

/-- Reads the items of an array after its bracket, with the items before in reverse. -/
def readItems (value : Reader Node) (clock : List Char) (done : List Node) : Reader (List Node) :=
  fun text =>
    match clock with
    | [] => none
    | _ :: clock =>
      match skipFiller false text with
      | none => none
      | some (']' :: rest) => some (done.reverse, rest)
      | some text =>
        match value text with
        | none => none
        | some (item, rest) =>
          match skipFiller false rest with
          | some (']' :: rest) => some ((item :: done).reverse, rest)
          | some (',' :: rest) => readItems value clock (item :: done) rest
          | _ => none

/-- Reads a key, the equals sign and a value. -/
def readPairWith (value : Reader Node) : Reader ((List String × String) × Node) := fun text => do
  let (key, rest) ← readKey text
  let (_, rest) ← readChar '=' rest
  let (node, rest) ← value (skipSpace rest)
  return ((key, node), skipSpace rest)

/-- Reads the entries of an inline table, with the entries before. -/
def readEntries (value : Reader Node) (clock : List Char) (entries : Entries) : Reader Entries :=
  fun text =>
    match clock with
    | [] => none
    | _ :: clock =>
      match readPairWith value text with
      | none => none
      | some (((path, name), node), rest) =>
        match entries.define? name node path, rest with
        | some entries, '\x7d' :: rest => some (entries, rest)
        | some entries, ',' :: rest => readEntries value clock entries rest
        | _, _ => none

/-- Reads a value in which less than `levels` arrays and inline tables stand around another. -/
def readValue (levels : Nat) : Reader Node := fun text =>
  match text with
  | [] => none
  | c :: rest =>
    if c = '"' ∨ c = '\'' then (readString (c :: rest)).map fun (s, rest) => (.string s, rest)
    else if c = '[' then
      match levels with
      | 0 => none
      | levels + 1 =>
        (readItems (readValue levels) text [] rest).map fun (items, rest) => (.array items, rest)
    else if c = '\x7b' then
      match levels with
      | 0 => none
      | levels + 1 =>
        match skipSpace rest with
        | '\x7d' :: rest => some (.table .inline [], rest)
        | rest =>
          (readEntries (readValue levels) text [] rest).map fun (entries, rest) =>
            (.table .inline entries, rest)
    else if c = 't' ∨ c = 'f' then readWord (c :: rest)
    else readNumeric (c :: rest)

/-- The number of arrays and inline tables that may stand around a value. -/
def maxLevels : Nat := 79

/-- The tables read so far, and the path of the one that is open. -/
structure Draft where
  entries : Entries
  path : List String

namespace Draft

def empty : Draft :=
  ⟨[], []⟩

def define? (draft : Draft) (path : List String) (name : String) (value : Node) :
    Option Draft := do
  let entries ← draft.entries.within? (Entries.define? name value path) draft.path
  return { draft with entries }

def openTable? (draft : Draft) (path : List String) (name : String) : Option Draft := do
  let entries ← draft.entries.within? (Entries.openTable? name) path
  return ⟨entries, path ++ [name]⟩

/-- Opens one more table in the list of a header. -/
def openListed? (draft : Draft) (path : List String) (name : String) : Option Draft := do
  let entries ← draft.entries.within? (Entries.openListed? name) path
  return ⟨entries, path ++ [name]⟩

end Draft

/-- Reads a line with a header, after its first bracket. -/
def readHeader (draft : Draft) : List Char → Option (Draft × List Char)
  | '[' :: rest => do
    let ((path, name), rest) ← readKey rest
    let (_, rest) ← readChar ']' rest
    let (_, rest) ← readChar ']' rest
    let rest ← skipLineEnd false rest
    let draft ← draft.openListed? path name
    return (draft, rest)
  | rest => do
    let ((path, name), rest) ← readKey rest
    let (_, rest) ← readChar ']' rest
    let rest ← skipLineEnd false rest
    let draft ← draft.openTable? path name
    return (draft, rest)

def readDefinition (draft : Draft) (text : List Char) : Option (Draft × List Char) := do
  let (((path, name), node), rest) ← readPairWith (readValue maxLevels) text
  let rest ← skipLineEnd false rest
  let draft ← draft.define? path name node
  return (draft, rest)

def readLines (clock : List Char) (draft : Draft) (text : List Char) : Option Entries :=
  match clock with
  | [] => if text.isEmpty then some draft.entries else none
  | _ :: clock =>
    match skipSpace text with
    | [] => some draft.entries
    | '[' :: rest =>
      match readHeader draft rest with
      | none => none
      | some (draft, rest) => readLines clock draft rest
    | c :: rest =>
      if c = '#' ∨ c = '\n' ∨ c = '\r' then
        match skipLineEnd false (c :: rest) with
        | none => none
        | some rest => readLines clock draft rest
      else
        match readDefinition draft (c :: rest) with
        | none => none
        | some (draft, rest) => readLines clock draft rest

/-- The entries of a document.  One mark of byte order may stand in front. -/
def parse (text : String) : Option Entries :=
  let text :=
    match text.toList with
    | '\ufeff' :: rest => rest
    | text => text
  readLines (' ' :: text) .empty text

end SessionBus.Toml
