import PixelChip.Text.Number

/-!
# Errors of the operating system
-/

namespace PixelChip

/-- An error of the operating system, by its number and text. -/
structure OsError where
  code : Nat
  text : String
  deriving DecidableEq, Repr

namespace OsError

/-- The text that reports the error. -/
def message (error : OsError) : String :=
  error.text ++ " (os error " ++ Text.decimal error.code ++ ")"

def noSuchFile : OsError := ⟨2, "No such file or directory"⟩

def permissionDenied : OsError := ⟨13, "Permission denied"⟩

def notADirectory : OsError := ⟨20, "Not a directory"⟩

def isADirectory : OsError := ⟨21, "Is a directory"⟩

def fileNameTooLong : OsError := ⟨36, "File name too long"⟩

def addressNotAvailable : OsError := ⟨99, "Cannot assign requested address"⟩

def networkUnreachable : OsError := ⟨101, "Network is unreachable"⟩

/-- The errors that following a path can give. -/
def ofPaths : List OsError :=
  [noSuchFile, permissionDenied, notADirectory, isADirectory, fileNameTooLong]

end OsError
end PixelChip
