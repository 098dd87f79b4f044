import SessionBus.SystemFault

/-!
# Where a hub listens

A hub listens at a path.  What lies there from an earlier run is removed, unless it is a directory,
and missing directories above it are made.
-/

namespace SessionBus

/-- What lies at a path. -/
inductive PathKind where
  | missing
  | file
  | directory
deriving DecidableEq, Repr

/-- The surroundings of a path: what lies there, what lies above it, what the nearest thing above
that is there is, and the number of bytes of the path. -/
structure Place where
  target : PathKind
  parent : PathKind
  ancestor : PathKind
  length : Nat
deriving DecidableEq, Repr

namespace Place

/-- The first length that is too great for the path of a socket. -/
def lengthLimit : Nat := 108

/-- Listens at a path; afterwards a socket lies there. -/
def listen (place : Place) : Except SystemFault Place :=
  if place.target = .directory then .error .isDirectory
  else if place.parent = .missing ∧ place.ancestor = .file then .error .notDirectory
  else if lengthLimit ≤ place.length then .error .pathTooLong
  else if place.parent = .file then .error .notDirectory
  else .ok { place with target := .file, parent := .directory, ancestor := .directory }

/-- Removes the socket, if it is still there. -/
def cleanUp (place : Place) : Place :=
  { place with target := .missing }

/-- Why nobody can be reached at a path where no hub listens. -/
def reachFault (place : Place) : SystemFault :=
  if lengthLimit ≤ place.length then .pathTooLong
  else if place.length = 0 then .invalidArgument
  else if place.parent = .file ∨ (place.parent = .missing ∧ place.ancestor = .file) then
    .notDirectory
  else if place.target = .missing then .notFound
  else .refused

end Place

/-- Why a hub does not run. -/
inductive ServerError where
  | socketSetup (path : String) (fault : SystemFault)
deriving DecidableEq, Repr

def ServerError.message : ServerError → String
  | .socketSetup path fault => "Failed to setup socket at " ++ path ++ ": " ++ fault.message

end SessionBus
