/-!
# Faults of the operating system

What the operating system reports about a path or a stream.
-/

namespace SessionBus

/-- Why a path or a stream cannot be used. -/
inductive SystemFault where
  | notFound
  | notDirectory
  | isDirectory
  | invalidArgument
  | refused
  | pathTooLong
  | notText
deriving DecidableEq, Repr

def SystemFault.message : SystemFault → String
  | .notFound => "No such file or directory (os error 2)"
  | .notDirectory => "Not a directory (os error 20)"
  | .isDirectory => "Is a directory (os error 21)"
  | .invalidArgument => "Invalid argument (os error 22)"
  | .refused => "Connection refused (os error 111)"
  | .pathTooLong => "path must be shorter than SUN_LEN"
  | .notText => "stream did not contain valid UTF-8"

end SessionBus
