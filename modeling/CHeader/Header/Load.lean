import CHeader.Files
import CHeader.Header.Parse
import CHeader.Report

/-!
# Loading headers

A header is read from a file and parsed.  Either step can fail; the failure names the path.
-/

namespace CHeader

/-- The step of loading that failed. -/
inductive HeaderError where
  | unreadable (file : Path) (cause : FileError)
  | unparsable (file : Path) (cause : ExtractError)
  deriving DecidableEq, Repr

namespace HeaderError

/-- The file of the header. -/
def file : HeaderError → Path
  | unreadable file _ => file
  | unparsable file _ => file

/-- The path of the header as it is shown. -/
def path (error : HeaderError) : Text :=
  error.file.shown

/-- The one-line message. -/
def message (error : HeaderError) : String :=
  match error with
  | unreadable .. => "failed to read header: " ++ String.ofList error.path
  | unparsable .. => "failed to parse header: " ++ String.ofList error.path

/-- The wording of the cause. -/
def cause : HeaderError → String
  | unreadable _ cause => cause.message
  | unparsable _ cause => cause.message

/-- The report of the failure, which is located in the header. -/
def report (error : HeaderError) : Report :=
  match error with
  | unreadable file cause =>
      { message := error.message, context := [cause.message], location := some file }
  | unparsable file cause => { cause.report with location := some file }

end HeaderError

namespace Header

/-- The text of the header in a file. -/
def readText (files : FileSystem) (path : Path) : Except HeaderError Text :=
  (files.read path).mapError (.unreadable path)

/-- The header in a file, whose source is the path as it is shown. -/
def load (files : FileSystem) (filter : TypeFilter) (path : Path) : Except HeaderError Header := do
  let text ← readText files path
  (parse filter path.shown text).mapError (.unparsable path)

end Header
end CHeader
