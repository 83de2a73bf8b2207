import CHeader.Source.Token
import CHeader.Text.Blank

/-!
# Normal form of a header

The extractors read headers in a normal form: comments are gone, tabs are spaces, no line is empty
or ends in a blank, and the last line has no newline behind it.
-/

namespace CHeader
namespace Source

/-- Removes the comments and keeps literals and all other text as they are. -/
def stripComments (text : Text) : Text :=
  ((Token.scan text).filter fun token => !token.isComment).flatMap Token.source

/-- A line with its tabs turned into spaces and the blanks at its end removed. -/
def cleanLine (line : Text) : Text :=
  Text.trimEnd (line.map fun c => if c = '\t' then ' ' else c)

/-- The lines of the normal form. -/
def normalLines (text : Text) : List Text :=
  (((stripComments text).splitOn '\n').map cleanLine).filter fun line => !line.isEmpty

/-- The normal form. -/
def normalize (text : Text) : Text :=
  Text.ofLines (normalLines text)

end Source
end CHeader
