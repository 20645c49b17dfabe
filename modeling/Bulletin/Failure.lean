import Bulletin.Check.Violation
import Bulletin.Text.Bytes
/-!
# Failures

Everything an operation on documents, presets, libraries or files can fail with.
-/

namespace Bulletin

inductive FileFault where
  | notFound
  | notDirectory
  | isDirectory
  | tooManyLinks
  /-- No path has a zero byte in it. -/
  | zeroByte
  /-- The bytes of the file are no UTF-8 text. -/
  | notText
  | alreadyExists
  /-- Any other fault, in the words of the machine. -/
  | other (words : String)
deriving DecidableEq, Repr

def FileFault.message : FileFault → String
  | .notFound => "No such file or directory (os error 2)"
  | .notDirectory => "Not a directory (os error 20)"
  | .isDirectory => "Is a directory (os error 21)"
  | .tooManyLinks => "Too many levels of symbolic links (os error 40)"
  | .zeroByte => "file name contained an unexpected NUL byte"
  | .notText => "stream did not contain valid UTF-8"
  | .alreadyExists => "file exists (use --force)"
  | .other words => words

inductive Failure where
  | file (path : RawText) (fault : FileFault)
  | fileContent (path : RawText) (error : Json.ReadError)
  /-- A text that came from no file is not what it should be. -/
  | content (error : Json.ReadError)
  | invalidDocument (errors : List Violation)
  | sectionNotFound (id : String)
  | presetNotFound (id : String)
  | blankName
  | notLibrary
deriving DecidableEq, Repr

namespace Failure

def message : Failure → String
  | .file path fault => "I/O error on " ++ path.shown ++ ": " ++ fault.message
  | .fileContent path error => "JSON error in " ++ path.shown ++ ": " ++ error.message
  | .content error => "Serialization error: " ++ error.message
  | .invalidDocument errors =>
      "Invalid document: " ++ String.intercalate "; " (errors.map Violation.summary)
  | .sectionNotFound id => "Invalid document: no section with id '" ++ id ++ "'"
  | .presetNotFound id => "Template not found: " ++ id
  | .blankName => "Template name must not be blank"
  | .notLibrary => "Invalid template library: expected a JSON array of templates"

end Failure

end Bulletin
