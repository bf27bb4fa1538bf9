import ClassAtlas.Text.Alphanumeric

/-!
# Visibility of a member

The underscores of a name say who may use it: one in front makes it protected, two make it private,
and two at either end make it a magic name, which the language itself calls. A diagram marks a
member with the sign of its visibility.
-/

namespace ClassAtlas.Visibility

open ClassAtlas.Text

/-- Does the text end in two underscores? -/
def endsInTwo (cs : List Char) : Bool :=
  ['_', '_'].isSuffixOf cs

/-- One underscore, a character other than the underscore, then word characters. -/
def isProtectedChars : List Char → Bool
  | '_' :: c :: rest => c != '_' && rest.all isWord
  | _ => false

/-- Two underscores, a character other than the underscore, then word characters, the last two of
which are not both underscores. -/
def isPrivateChars : List Char → Bool
  | '_' :: '_' :: c :: rest => c != '_' && rest.all isWord && !endsInTwo (c :: rest)
  | _ => false

/-- Two underscores at either end and at least one word character between them. -/
def isMagicChars (cs : List Char) : Bool :=
  5 ≤ cs.length && ['_', '_'].isPrefixOf cs && endsInTwo cs && cs.all isWord

/-- Is the name protected? -/
def isProtected (name : String) : Bool := isProtectedChars name.toList

/-- Is the name private? -/
def isPrivate (name : String) : Bool := isPrivateChars name.toList

/-- Is the name magic? -/
def isMagic (name : String) : Bool := isMagicChars name.toList

/-- The sign that a diagram puts in front of a member. -/
def sign (name : String) : Char :=
  if isPrivate name then '-' else if isProtected name then '#' else '+'

/-- A member's name behind the sign of its visibility. -/
def symbol (name : String) : String :=
  String.ofList (sign name :: name.toList)

end ClassAtlas.Visibility
