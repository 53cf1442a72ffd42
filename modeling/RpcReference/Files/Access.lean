import RpcReference.Text.Basic
/-!
# Failed accesses to files
-/

namespace RpcReference.Files

/-- Why a file cannot be read or created. -/
inductive AccessError where
  | notFound
  | notDirectory
  | isDirectory
  | denied
  /-- The file can be read and does not hold UTF-8 text. -/
  | notText
  deriving DecidableEq, Repr

/-- The wording of the operating system. -/
def AccessError.message : AccessError → Text
  | .notFound => "No such file or directory (os error 2)".toList
  | .notDirectory => "Not a directory (os error 20)".toList
  | .isDirectory => "Is a directory (os error 21)".toList
  | .denied => "Permission denied (os error 13)".toList
  | .notText => "stream did not contain valid UTF-8".toList

end RpcReference.Files
