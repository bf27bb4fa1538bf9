import ClassAtlas.Source.Numeral

/-!
# Tokens

The words of source text: names, keywords, numbers, string literals, operators, and the ends and
indentations of lines, which are tokens of their own.
-/

namespace ClassAtlas.Source

/-- A string literal as it stands in the text. -/
structure StringToken where
  /-- A literal of bytes. -/
  isBytes : Bool
  /-- Backslashes stand for themselves. -/
  isRaw : Bool
  /-- Braces hold expressions. -/
  isFormatted : Bool
  /-- The literal is marked as text by a lower-case `u`. -/
  isMarked : Bool
  /-- What stands between the quotes. -/
  body : List Char

/-- A token. -/
inductive Token where
  /-- A name in normal form. -/
  | name (id : String)
  | keyword (word : String)
  | number (value : Numeral)
  | string (literal : StringToken)
  | op (sign : String)
  | newline
  | indent
  | dedent

/-- The words that are never names. -/
def keywords : List String :=
  ["False", "None", "True", "and", "as", "assert", "async", "await", "break", "class", "continue",
   "def", "del", "elif", "else", "except", "finally", "for", "from", "global", "if", "import", "in",
   "is", "lambda", "nonlocal", "not", "or", "pass", "raise", "return", "try", "while", "with",
   "yield"]

/-- The operators of three characters. -/
def operators3 : List String := ["...", "**=", "//=", "<<=", ">>="]

/-- The operators of two characters. -/
def operators2 : List String :=
  ["!=", "%=", "&=", "**", "*=", "+=", "-=", "->", "//", "/=", "<<", "<=", "==", ">=", ">>",
   "@=", "^=", "|=", ":="]

/-- The operators of one character. -/
def operators1 : List Char := "%&()*+,-./:;<=>@[]^\x7b|\x7d~".toList

end ClassAtlas.Source
