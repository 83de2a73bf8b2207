import CHeader.ExtractError
import CHeader.Path
import CHeader.Text.Blank

/-!
# Error reports

A report tells a user what failed, in which header, and how to mend it.
-/

namespace CHeader

/-- An error with its location, further lines about it, and suggestions. -/
structure Report where
  /-- What failed. -/
  message : String
  /-- Lines that say more. -/
  context : List String := []
  /-- Ways to mend the failure. -/
  suggestions : List String := []
  /-- The path of the header at fault. -/
  location : Option Path := none
  deriving DecidableEq, Repr

namespace Report

/-- A word in bold and in the given terminal color, or plain. -/
def paint (color : Bool) (code word : String) : String :=
  if color then "\x1b[1;" ++ code ++ "m" ++ word ++ "\x1b[0m" else word

/-- Suggestions as numbered lines. -/
def numbered (first : Nat) : List String → String
  | [] => ""
  | suggestion :: later =>
      "  " ++ toString first ++ ". " ++ suggestion ++ "\n" ++ numbered (first + 1) later

/-- The report as it is shown, in color or plain. -/
def render (report : Report) (color : Bool) : String :=
  let head := paint color "31" "error" ++ ": " ++ report.message ++ "\n"
  let location :=
    match report.location with
    | none => ""
    | some path => "  --> " ++ String.ofList path.shown ++ "\n"
  let context := String.join (report.context.map fun line => "  = " ++ line ++ "\n")
  let suggestions :=
    if report.suggestions.isEmpty then ""
    else "\n" ++ paint color "32" "help" ++ ": consider:\n" ++ numbered 1 report.suggestions
  head ++ location ++ context ++ suggestions

end Report

/-- The report of a failed extraction. -/
def ExtractError.report (error : ExtractError) : Report :=
  match error with
  | malformedEnumerator enumName entry =>
      { message :=
          "error extracting enum for " ++ String.ofList enumName ++ ", member " ++
            String.ofList (Text.trim entry)
        context := ["offending entry: `" ++ String.ofList entry ++ "`"]
        suggestions :=
          ["Write the enumerator as `NAME` or `NAME = VALUE`",
           "Move function-like macro values with commas out of the enum body"] }
  | malformedEnum _ declaration =>
      { message := error.message
        context := (Text.firstLine? declaration).toList.map fun line =>
          "declaration starts with `" ++ String.ofList line ++ "`" }
  | invalidArrayCount _ count =>
      { message := error.message
        context := ["the count is neither a known constant nor an integer literal"]
        suggestions :=
          ["Define `" ++ String.ofList count ++ "` under [constants] in cextract.toml",
           "Pass `--define " ++ String.ofList count ++ "=<value>`"] }

end CHeader
