import CompileFlags.Text.Quoted
import CompileFlags.Text.Utf8

/-!
# Failed access

Why a file system refuses a request, with the number and the words of the system error.
-/

namespace CompileFlags

/-- Why a system refuses what could be done. -/
inductive Refusal where
  | permissionDenied
  | inputOutput
  | noSpace
  | readOnly
deriving DecidableEq, Repr

/-- A system error. -/
inductive SystemError where
  | notFound
  | exists
  | notDirectory
  | isDirectory
  | nameTooLong
  | tooManyLinks
  | refused (refusal : Refusal)
deriving DecidableEq, Repr

/-- The number of a system error. -/
def SystemError.number : SystemError → Nat
  | .notFound => 2
  | .exists => 17
  | .notDirectory => 20
  | .isDirectory => 21
  | .nameTooLong => 36
  | .tooManyLinks => 40
  | .refused .permissionDenied => 13
  | .refused .inputOutput => 5
  | .refused .noSpace => 28
  | .refused .readOnly => 30

/-- The words of a system error. -/
def SystemError.words : SystemError → String
  | .notFound => "No such file or directory"
  | .exists => "File exists"
  | .notDirectory => "Not a directory"
  | .isDirectory => "Is a directory"
  | .nameTooLong => "File name too long"
  | .tooManyLinks => "Too many levels of symbolic links"
  | .refused .permissionDenied => "Permission denied"
  | .refused .inputOutput => "Input/output error"
  | .refused .noSpace => "No space left on device"
  | .refused .readOnly => "Read-only file system"

/-- A system error with its number. -/
def SystemError.message (e : SystemError) : String :=
  "[Errno " ++ toString e.number ++ "] " ++ e.words

/-- Whether an error only says that nothing can be found at the path. -/
def SystemError.meansMissing : SystemError → Bool
  | .notFound | .notDirectory | .tooManyLinks => true
  | _ => false

/-- Why access to a path failed. -/
inductive AccessFault where
  | system (error : SystemError) (path : Text)
  /-- The path, or the name of a user in it, holds the null character, which none may. -/
  | nullCharacter
  /-- The path, or the name of a user in it, or what should be written, has no bytes. -/
  | unencodable (fault : Text.EncodingFault)
deriving DecidableEq, Repr

/-- The message of a failed access. -/
def AccessFault.message : AccessFault → String
  | .system error path => error.message ++ ": " ++ Text.quoted path
  | .nullCharacter => "embedded null byte"
  | .unencodable fault => fault.message

namespace FileSystem

/-- Whether a surrogate may stand in what is given to the system, where it is a byte that belongs to no
character. -/
def isStrayByte (n : Fin 0x800) : Bool := 0x480 ≤ n.val && n.val < 0x500

/-- Why a text cannot be given to the system at all, be it as a path or as the name of a user. -/
def pathFault? (p : Text) : Option AccessFault :=
  match Text.firstEncodingFault isStrayByte 0 p with
  | some fault => some (.unencodable fault)
  | none => if p.contains '\x00' then some .nullCharacter else none

end FileSystem

end CompileFlags
