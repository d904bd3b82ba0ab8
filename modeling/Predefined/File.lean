-- The content of files by their paths, and why a path has none.
namespace Predefined

/-- Why a file cannot be read. -/
inductive FileError where
  | notFound
  /-- A path leads through a file. -/
  | notDirectory
  | isDirectory
  | nameTooLong
  /-- No path has a null character. -/
  | nullCharacter
  /-- Any other reason, as the system puts it. -/
  | other (reason : String)
deriving DecidableEq

def FileError.text : FileError → String
  | notFound => "No such file or directory (os error 2)"
  | notDirectory => "Not a directory (os error 20)"
  | isDirectory => "Is a directory (os error 21)"
  | nameTooLong => "File name too long (os error 36)"
  | nullCharacter => "file name contained an unexpected NUL byte"
  | other reason => reason

/-- The content of a file by its path. -/
abbrev ReadFile := String → Except FileError String

end Predefined
