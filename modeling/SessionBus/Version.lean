import SessionBus.Frame
import SessionBus.Json.Union

/-!
# Protocol versions

Frames and hubs understand each other when the major numbers of their versions agree.
-/

namespace SessionBus

open Json (Decoder Fields)

/-- A version of the protocol. -/
structure Version where
  major : UInt16
  minor : UInt16
deriving DecidableEq, Repr

/-- What is wrong with a version. -/
inductive VersionError where
  | invalidFormat (text : String)
  | incompatible (got expected : Version)
deriving DecidableEq, Repr

namespace Version

def current : Version := ⟨1, 0⟩

/-- Whether a peer of the other version can be served. -/
def isCompatible (version other : Version) : Bool :=
  version.major == other.major

def text (version : Version) : String :=
  decimal version.major.toNat ++ "." ++ decimal version.minor.toNat

/-- Refuses a peer whose version is not compatible with the current one. -/
def requireCompatible (peer : Version) : Except VersionError Unit :=
  if current.isCompatible peer then .ok () else .error (.incompatible peer current)

def splitPoint : List Char → Option (List Char × List Char)
  | [] => none
  | c :: rest =>
    if c = '.' then some ([], rest)
    else (splitPoint rest).map fun (before, after) => (c :: before, after)

def ofText? (text : String) : Option Version := do
  let (major, minor) ← splitPoint text.toList
  let major ← Text.numeral? UInt16.size major
  let minor ← Text.numeral? UInt16.size minor
  return ⟨UInt16.ofNat major, UInt16.ofNat minor⟩

/-- The version that a text names, or why there is none. -/
def parse (text : String) : Except VersionError Version :=
  match ofText? text with
  | some version => .ok version
  | none => .error (.invalidFormat text)

def toJson (version : Version) : Json :=
  .object [("major", .nat version.major.toNat), ("minor", .nat version.minor.toNat)]

def decoder : Decoder Version :=
  .record "ProtocolVersion" <|
    ((Fields.one "major" Decoder.uint16).both (Fields.one "minor" Decoder.uint16)).map
      fun (major, minor) => { major, minor }

end Version

def VersionError.message : VersionError → String
  | .invalidFormat text => "Invalid version format: " ++ text
  | .incompatible got expected =>
    "Incompatible version: got " ++ got.text ++ ", expected " ++ expected.text

end SessionBus
