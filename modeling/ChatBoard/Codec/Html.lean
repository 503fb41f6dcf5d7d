/-!
# Text inside markup

Six characters are written as entities: those that open or close a tag, an attribute value or an
entity, and the solidus.
-/

namespace ChatBoard.Html

/-- The written form of one character. -/
def escapeChar (c : Char) : List Char :=
  if c = '<' then "&lt;".toList
  else if c = '>' then "&gt;".toList
  else if c = '&' then "&amp;".toList
  else if c = '"' then "&quot;".toList
  else if c = '\'' then "&#x27;".toList
  else if c = '/' then "&#x2f;".toList
  else [c]

/-- The written form of a text. -/
def escape (s : String) : String := String.ofList (s.toList.flatMap escapeChar)

end ChatBoard.Html
