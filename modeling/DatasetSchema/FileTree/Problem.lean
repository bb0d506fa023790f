/-!
# Problems with files

Why a file cannot be read or written.
-/

namespace DatasetSchema

/-- Why a file cannot be read or written. -/
inductive FileProblem where
  | notFound
  /-- A directory is where a file should be. -/
  | isDirectory
  /-- A file is where a directory should be. -/
  | notDirectory
  /-- The content is no text. -/
  | invalidText
  | busy
  | other (text : String)
  deriving DecidableEq, Repr

/-- A problem in words. -/
def FileProblem.text : FileProblem → String
  | .notFound => "no such file or directory"
  | .isDirectory => "is a directory"
  | .notDirectory => "not a directory"
  | .invalidText => "the content is not valid UTF-8"
  | .busy => "the file or directory is in use"
  | .other text => text

end DatasetSchema
