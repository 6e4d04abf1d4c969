/-!
Where one text stands within another.
-/
namespace CourseAudit.Text

/-- Whether `part` begins at some place of a text. -/
def isInfix (part : List Char) : List Char → Bool
  | [] => part.isEmpty
  | c :: cs => part.isPrefixOf (c :: cs) || isInfix part cs

/-- Whether a text contains another anywhere. -/
def contains (text part : String) : Bool := isInfix part.toList text.toList

def startsWith (text part : String) : Bool := part.toList.isPrefixOf text.toList

def endsWith (text part : String) : Bool := part.toList.isSuffixOf text.toList

end CourseAudit.Text
