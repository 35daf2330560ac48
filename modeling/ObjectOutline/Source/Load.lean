import ObjectOutline.Parse
import ObjectOutline.Source.FileTree

/-! Loading: from the path of a file to its text and its objects. -/
namespace ObjectOutline

/-- A file that could not be read, and why. -/
structure LoadError where
  path : String
  cause : FileError
  deriving DecidableEq, Repr

/-- The wording of a failure. -/
def LoadError.message (error : LoadError) : String :=
  "failed to read " ++ error.path ++ ": " ++ error.cause.message

namespace Source

/-- The text of a file, without its byte order mark. -/
def load (files : FileReader) (path : String) : Except LoadError (List Char) :=
  match files path with
  | .error cause => .error ⟨path, cause⟩
  | .ok bytes =>
    match Text.decode? bytes with
    | some text => .ok (Text.dropByteOrderMark text)
    | none => .error ⟨path, .notUtf8⟩

/-- The first object of a file. -/
def parse (files : FileReader) (maxDepth : Nat) (path : String) : Except LoadError Parsed :=
  (load files path).map (Parse.text maxDepth)

end Source
end ObjectOutline
