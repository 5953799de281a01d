/-!
# Snake case

The default spelling of table and column names: `firstName` becomes `first_name`. Only ASCII
letters have a case here; every other character is kept as it stands.
-/

namespace IdentityMap.Text

/-- Lower the capitals of `text`; one that follows a lower-case letter or a digit opens a new word.
`inWord` says whether the character before the text was such a letter or digit. -/
def snakeChars (inWord : Bool) : List Char → List Char
  | [] => []
  | c :: rest =>
    if c.isUpper then
      if inWord then '_' :: c.toLower :: snakeChars false rest
      else c.toLower :: snakeChars false rest
    else
      c :: snakeChars (c.isLower || c.isDigit) rest

def snakeCase (name : String) : String := String.ofList (snakeChars false name.toList)

end IdentityMap.Text
