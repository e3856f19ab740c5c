/-!
# Faults of the file system

Why a file could not be read or written, with the wording of the operating system.
-/

namespace MigrationPreview

/-- Why a file operation failed. -/
inductive FileFault where
  | notFound
  | alreadyExists
  | notADirectory
  | isADirectory
  | nameTooLong
  /-- The path holds a null character, with which the operating system ends a path. -/
  | nullInName
  /-- The file holds bytes that are not UTF-8. -/
  | notText
  /-- Any other fault, with its description. -/
  | other (description : String)
  deriving DecidableEq

/-- The description of a fault. -/
def FileFault.message : FileFault → String
  | notFound => "No such file or directory (os error 2)"
  | alreadyExists => "File exists (os error 17)"
  | notADirectory => "Not a directory (os error 20)"
  | isADirectory => "Is a directory (os error 21)"
  | nameTooLong => "File name too long (os error 36)"
  | nullInName => "file name contained an unexpected NUL byte"
  | notText => "stream did not contain valid UTF-8"
  | other description => description

end MigrationPreview
