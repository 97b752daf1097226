/-!
# Padding

A text in a column of a given width. A longer text stays as it is.
-/

namespace SolAudit.Text

/-- Blanks after the text. -/
def padRight (width : Nat) (text : String) : String := String.ofList (text.toList.rightpad width ' ')

/-- Blanks before the text. -/
def padLeft (width : Nat) (text : String) : String := String.ofList (text.toList.leftpad width ' ')

end SolAudit.Text
