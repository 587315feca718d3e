import CompileFlags.FileSystem.Error
import CompileFlags.Json.Error
import CompileFlags.Value.Mapping

/-!
# Faults

Everything that can go wrong, by its cause, and the message for each cause. A database that cannot
be used is the one fault that users meet in practice; most others come from settings of a wrong
kind.
-/

namespace CompileFlags

/-- Why a value is no map. -/
def MappingFault.message : MappingFault → String
  | .notIterable kind => "'" ++ kind ++ "' object is not iterable"
  | .notSequence index =>
    "cannot convert dictionary update sequence element #" ++ toString index ++ " to a sequence"
  | .wrongLength index length =>
    "dictionary update sequence element #" ++ toString index ++ " has length " ++
      toString length ++ "; 2 is required"
  | .unhashable kind => "unhashable type: '" ++ kind ++ "'"

/-- Why a database cannot be used. -/
inductive DatabaseCause where
  | unreadable (fault : AccessFault)
  | undecodable (fault : Text.Utf8Fault)
  | malformed (fault : Json.SyntaxFault)
  | notArray
deriving DecidableEq, Repr

/-- The words for a cause. -/
def DatabaseCause.message : DatabaseCause → String
  | .unreadable fault => fault.message
  | .undecodable fault => fault.message
  | .malformed fault => "invalid JSON (" ++ fault.message ++ ")"
  | .notArray => "top-level value is not an array"

/-- Why the console cannot show a text, by the kind of the failure and its words. -/
structure ConsoleFault where
  kind : String
  message : Text
deriving DecidableEq, Repr

/-- Why an operation failed. -/
inductive Fault where
  /-- The database at this path cannot be used. -/
  | database (path : Text) (cause : DatabaseCause)
  /-- A command line cannot be split. -/
  | commandLine (reason : String) (command : Text)
  /-- A file or directory cannot be used. -/
  | access (fault : AccessFault)
  /-- The settings are no text. -/
  | undecodable (fault : Text.Utf8Fault)
  /-- A whole number has more digits than are read. -/
  | tooManyDigits (count : Nat)
  /-- Brackets are nested too deeply to be read. -/
  | tooDeep (bracket : Json.Bracket)
  /-- A value cannot be written. -/
  | unwritable (fault : Json.RenderFault)
  /-- A setting that should be a map is none. -/
  | notMapping (fault : MappingFault)
  /-- No home directory is known. -/
  | noHome
  /-- A relative path cannot be located, since the current directory has been removed. -/
  | noCurrentDirectory
  /-- A setting that should be a path is of another kind. -/
  | notPath (kind : String)
  /-- A setting that should be a file name is of another kind. -/
  | notName (kind : String)
  /-- A candidate has no working directory. -/
  | noWorkingDirectory
  /-- A part of a colour is no hexadecimal number. -/
  | notHexadecimal (text : Text)
  /-- The console cannot show a text. -/
  | console (fault : ConsoleFault)
deriving DecidableEq, Repr

/-- The message of a fault. -/
def Fault.message : Fault → Text
  | .database path cause => "Malformed compilation database " ++ path ++ ": " ++ cause.message
  | .commandLine reason command => "Cannot parse command line (" ++ reason ++ "): " ++ command
  | .access fault => fault.message
  | .undecodable fault => fault.message
  | .tooManyDigits count => (Text.NumberFault.tooManyDigits count).message
  | .tooDeep bracket =>
    "maximum recursion depth exceeded while decoding a JSON " ++ bracket.name ++
      " from a unicode string"
  | .unwritable fault => fault.message
  | .notMapping fault => fault.message
  | .noHome => "Could not determine home directory."
  | .noCurrentDirectory => SystemError.notFound.message
  | .notPath kind => "expected str, bytes or os.PathLike object, not " ++ kind
  | .notName kind =>
    "join() argument must be str, bytes, or os.PathLike object, not '" ++ kind ++ "'"
  | .noWorkingDirectory => "list index out of range"
  | .notHexadecimal text => "invalid literal for int() with base 16: " ++ Text.quoted text
  | .console fault => fault.message

end CompileFlags
