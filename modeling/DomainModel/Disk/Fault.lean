/-! What can go wrong with files and directories, in the words of the operating system. -/

namespace DomainModel

/-- Why a file or a directory cannot be used as asked. -/
inductive DiskFault where
  | notFound
  | alreadyThere
  | notDirectory
  | isDirectory
  | busy
  | noSpace
  | nameTooLong
  /-- A path holds the character that ends texts in the operating system. -/
  | nameHasNull
  /-- A file is no UTF-8 text. -/
  | notText
  | other (message : String)
  deriving DecidableEq, Repr

/-- The wording of a fault. -/
def DiskFault.message : DiskFault → String
  | .notFound => "No such file or directory (os error 2)"
  | .alreadyThere => "File exists (os error 17)"
  | .notDirectory => "Not a directory (os error 20)"
  | .isDirectory => "Is a directory (os error 21)"
  | .busy => "Device or resource busy (os error 16)"
  | .noSpace => "No space left on device (os error 28)"
  | .nameTooLong => "File name too long (os error 36)"
  | .nameHasNull => "file name contained an unexpected NUL byte"
  | .notText => "stream did not contain valid UTF-8"
  | .other message => message

end DomainModel
