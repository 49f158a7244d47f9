/-!
# Failures of files
-/

namespace SchemaDrift

/-- Why a file cannot be read or written. -/
inductive FileError where
  /-- It, or the directory it should lie in, is not there. -/
  | notFound
  | permissionDenied
  /-- Something on the way to it is not a directory. -/
  | notDirectory
  /-- It is a directory itself. -/
  | isDirectory
  /-- The path to it, or a name on the way, is too long. -/
  | nameTooLong
  /-- The path to it holds a NUL character. -/
  | nulInName
  /-- It does not hold text. -/
  | notText
  /-- Something else, in the words of the system. -/
  | other (reason : String)
deriving DecidableEq, Repr

/-- What the system says about a failure. -/
def FileError.message : FileError → String
  | .notFound => "No such file or directory (os error 2)"
  | .permissionDenied => "Permission denied (os error 13)"
  | .notDirectory => "Not a directory (os error 20)"
  | .isDirectory => "Is a directory (os error 21)"
  | .nameTooLong => "File name too long (os error 36)"
  | .nulInName => "file name contained an unexpected NUL byte"
  | .notText => "stream did not contain valid UTF-8"
  | .other reason => reason

end SchemaDrift
