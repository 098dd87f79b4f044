import SessionBus.Json.Decoder
import SessionBus.Text.Blank
import SessionBus.Text.Numeral

/-!
# Frame identities

A frame is a window attached to a hub.  Its identity is a number of 64 bits that the hub assigns;
in text it is written `frame-7`, and the bare number is accepted as well.
-/

namespace SessionBus

open Json (Decoder)

def decimal (n : Nat) : String :=
  String.ofList (Nat.toDigits 10 n)

/-- The identity of a frame. -/
structure FrameId where
  value : UInt64
deriving DecidableEq, Repr, Inhabited

namespace FrameId

/-- What stands in front of the number in the text of an identity. -/
def mark : List Char := ['f', 'r', 'a', 'm', 'e', '-']

def text (frame : FrameId) : String :=
  String.ofList (mark ++ Nat.toDigits 10 frame.value.toNat)

/-- Drops the mark in front of the number, if it is there. -/
def dropMark (text : List Char) : List Char :=
  if mark.isPrefixOf text then text.drop mark.length else text

/-- The identity that a text names, blanks around it set aside. -/
def ofText? (text : String) : Option FrameId :=
  (Text.numeral? UInt64.size (dropMark (Text.trim text.toList))).map fun n => ⟨UInt64.ofNat n⟩

/-- Identities are ordered by their numbers. -/
def le (a b : FrameId) : Bool :=
  a.value ≤ b.value

def toJson (frame : FrameId) : Json :=
  .nat frame.value.toNat

def decoder : Decoder FrameId :=
  Decoder.uint64.map FrameId.mk

end FrameId

/-- Why a text is refused as the identity of a frame. -/
inductive FrameIdError where
  | invalid (text : String)
deriving DecidableEq, Repr

def FrameIdError.message : FrameIdError → String
  | .invalid text => "Invalid frame id: " ++ text

/-- The identity that a text names, or why there is none. -/
def FrameId.parse (text : String) : Except FrameIdError FrameId :=
  match FrameId.ofText? text with
  | some frame => .ok frame
  | none => .error (.invalid text)

end SessionBus
