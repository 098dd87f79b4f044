import SessionBus.Text.Numeral

/-!
# Characters, strings and keys of TOML

A reader gives nothing where the text is not of its form.  Strings stand between one or three
quotes; in double quotes a backslash escapes.  A key is one name or several with points between
them, a name being bare or quoted.
-/

namespace SessionBus.Toml

/-- A reader of a result at the start of a text. -/
abbrev Reader (α : Type) := List Char → Option (α × List Char)

def isSpace (c : Char) : Bool :=
  c == ' ' || c == '\t'

def skipSpace (text : List Char) : List Char :=
  text.dropWhile isSpace

/-- Whether a character can stand in a comment and, quotes and backslashes apart, in a string as
itself. -/
def isTextChar (c : Char) : Bool :=
  c == '\t' || (' ' ≤ c && c != '\x7f')

/-- The number that hexadecimal digits stand for. -/
def hexNumber? (digits : List Char) : Option Nat :=
  digits.foldlM (fun n c => (Text.hexDigit? c).map fun d => 16 * n + d) 0

def charOf? (digits : List Char) : Option Char := do
  let n ← hexNumber? digits
  if n.isValidChar then some (Char.ofNat n) else none

/-- The character that an escape of one letter stands for. -/
def simpleEscape? (c : Char) : Option Char :=
  if c = '"' then some '"'
  else if c = '\\' then some '\\'
  else if c = 'b' then some '\x08'
  else if c = 'f' then some '\x0c'
  else if c = 'n' then some '\n'
  else if c = 'r' then some '\r'
  else if c = 't' then some '\t'
  else none

/-- The string of characters that were collected in reverse. -/
def collected (done : List Char) : String :=
  String.ofList done.reverse

/-- Reads the rest of a string in double quotes. -/
def readBasic (done : List Char) : Reader String
  | [] => none
  | '"' :: rest => some (collected done, rest)
  | '\\' :: 'u' :: a :: b :: c :: d :: rest =>
    match charOf? [a, b, c, d] with
    | some char => readBasic (char :: done) rest
    | none => none
  | '\\' :: 'U' :: a :: b :: c :: d :: e :: f :: g :: h :: rest =>
    match charOf? [a, b, c, d, e, f, g, h] with
    | some char => readBasic (char :: done) rest
    | none => none
  | '\\' :: c :: rest =>
    match simpleEscape? c with
    | some char => readBasic (char :: done) rest
    | none => none
  | c :: rest => if isTextChar c ∧ c ≠ '\\' then readBasic (c :: done) rest else none

/-- Reads the rest of a string in single quotes. -/
def readLiteral (done : List Char) : Reader String
  | [] => none
  | c :: rest =>
    if c = '\'' then some (collected done, rest)
    else if isTextChar c then readLiteral (c :: done) rest
    else none

/-- What a backslash at the end of a line does to the text after it. -/
inductive Folding where
  | off
  | beforeBreak
  | afterBreak
deriving DecidableEq

/-- Reads the rest of a string in three double quotes.  Up to two quotes may stand before the
closing ones. -/
def readLongBasic (done : List Char) (folding : Folding) : Reader String
  | [] => none
  | '\r' :: '\n' :: rest =>
    match folding with
    | .off => readLongBasic ('\n' :: done) .off rest
    | _ => readLongBasic done .afterBreak rest
  | '\n' :: rest =>
    match folding with
    | .off => readLongBasic ('\n' :: done) .off rest
    | _ => readLongBasic done .afterBreak rest
  | ' ' :: rest =>
    match folding with
    | .off => readLongBasic (' ' :: done) .off rest
    | folding => readLongBasic done folding rest
  | '\t' :: rest =>
    match folding with
    | .off => readLongBasic ('\t' :: done) .off rest
    | folding => readLongBasic done folding rest
  | c :: rest =>
    if folding = .beforeBreak then none
    else
      match c, rest with
      | '"', '"' :: '"' :: '"' :: '"' :: rest => some (collected ('"' :: '"' :: done), rest)
      | '"', '"' :: '"' :: '"' :: rest => some (collected ('"' :: done), rest)
      | '"', '"' :: '"' :: rest => some (collected done, rest)
      | '\\', 'u' :: a :: b :: c :: d :: rest =>
        match charOf? [a, b, c, d] with
        | some char => readLongBasic (char :: done) .off rest
        | none => none
      | '\\', 'U' :: a :: b :: c :: d :: e :: f :: g :: h :: rest =>
        match charOf? [a, b, c, d, e, f, g, h] with
        | some char => readLongBasic (char :: done) .off rest
        | none => none
      | '\\', c :: rest =>
        match simpleEscape? c with
        | some char => readLongBasic (char :: done) .off rest
        | none =>
          if isSpace c ∨ c = '\n' ∨ c = '\r' then readLongBasic done .beforeBreak (c :: rest)
          else none
      | c, rest => if isTextChar c ∧ c ≠ '\\' then readLongBasic (c :: done) .off rest else none

/-- Reads the rest of a string in three single quotes. -/
def readLongLiteral (done : List Char) : Reader String
  | [] => none
  | '\'' :: '\'' :: '\'' :: '\'' :: '\'' :: rest => some (collected ('\'' :: '\'' :: done), rest)
  | '\'' :: '\'' :: '\'' :: '\'' :: rest => some (collected ('\'' :: done), rest)
  | '\'' :: '\'' :: '\'' :: rest => some (collected done, rest)
  | '\r' :: '\n' :: rest => readLongLiteral ('\n' :: done) rest
  | c :: rest =>
    if isTextChar c ∨ c = '\n' then readLongLiteral (c :: done) rest else none

/-- Drops the line break that may follow three opening quotes. -/
def skipFirstBreak : List Char → List Char
  | '\r' :: '\n' :: rest => rest
  | '\n' :: rest => rest
  | text => text

def readString : Reader String
  | '"' :: '"' :: '"' :: rest => readLongBasic [] .off (skipFirstBreak rest)
  | '"' :: rest => readBasic [] rest
  | '\'' :: '\'' :: '\'' :: rest => readLongLiteral [] (skipFirstBreak rest)
  | '\'' :: rest => readLiteral [] rest
  | _ => none

/-- Whether a character can stand in a bare name. -/
def isBareChar (c : Char) : Bool :=
  c.isAlphanum || c == '_' || c == '-'

def readName : Reader String
  | '"' :: rest => readBasic [] rest
  | '\'' :: rest => readLiteral [] rest
  | text =>
    match text.takeWhile isBareChar with
    | [] => none
    | name => some (String.ofList name, text.drop name.length)

/-- The first number of names that is too great for a key. -/
def nameLimit : Nat := 80

/-- Reads the names of a key, at most as many as `limit`, with the names before in reverse. -/
def readNames (limit : Nat) (names : List String) : Reader (List String) := fun text =>
  match limit with
  | 0 => none
  | limit + 1 =>
    match readName (skipSpace text) with
    | none => none
    | some (name, rest) =>
      match skipSpace rest with
      | '.' :: rest => readNames limit (name :: names) rest
      | rest => some ((name :: names).reverse, rest)

/-- Reads a key with the white space around it: the names on the way and the last one. -/
def readKey : Reader (List String × String) := fun text =>
  match readNames (nameLimit - 1) [] text with
  | none => none
  | some (names, rest) =>
    match names.getLast? with
    | none => none
    | some last => some ((names.dropLast, last), rest)

end SessionBus.Toml
