import CompileFlags.Path.Tidy

/-!
# Languages by extension

The extension of a file tells its language, and whether it is a header. Upper and lower case differ.
-/

namespace CompileFlags

/-- The language of a source file. -/
inductive Language where
  | c
  | cpp
  | objc
  | unknown
deriving DecidableEq, Repr

namespace Language

/-- The name of a language. -/
def name : Language → String
  | .c => "c"
  | .cpp => "cpp"
  | .objc => "objc"
  | .unknown => "unknown"

/-- The languages of the known extensions. -/
def byExtension : List (Text × Language) := [
  (".c", .c), (".h", .c),
  (".cpp", .cpp), (".cc", .cpp), (".cxx", .cpp), (".C", .cpp),
  (".hpp", .cpp), (".hh", .cpp), (".hxx", .cpp), (".inl", .cpp),
  (".m", .objc), (".mm", .objc)]

/-- The extensions of headers. -/
def headerExtensions : List Text := [".h", ".hpp", ".hh", ".hxx", ".inl"]

/-- The language of a file. -/
def ofPath (p : Text) : Language := (byExtension.lookup (Path.extension p)).getD .unknown

end Language

/-- Whether a file is a header, which is seldom compiled on its own. -/
def isHeader (p : Text) : Bool := Language.headerExtensions.contains (Path.extension p)

/-- What a file is, in words. -/
def sourceLabel (p : Text) : String :=
  let kind := if isHeader p then "HEADER" else "SOURCE"
  match Language.ofPath p with
  | .c => "C " ++ kind
  | .cpp => "C++ " ++ kind
  | .objc => "OBJECTIVE-C " ++ kind
  | .unknown => "FILE"

end CompileFlags
