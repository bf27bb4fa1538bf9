/-!
# Documents

A configuration is a document: tables of named values, lists, texts, numbers, truth values, nothing, and
values of other kinds, such as dates, of which only the kind is known. `Document.find?` follows a dotted
key from table to table. Since a configuration may hold a value of any kind anywhere, the questions that
the analysis asks of it (what is under this name, does this hold that name) are answered for every kind,
or refused with the kind as the reason.
-/

namespace ClassAtlas

/-- A value of any kind. -/
inductive Document where
  | null
  | bool (b : Bool)
  | integer (n : Int)
  /-- The number `mantissa · 10 ^ -places`. -/
  | decimal (mantissa : Int) (places : Nat)
  | text (s : String)
  | list (items : List Document)
  /-- Names with their values, in order. -/
  | table (entries : List (String × Document))
  /-- A value of another kind, given by the name of the kind. -/
  | other (label : String)
deriving Inhabited

namespace Document

/-- The kinds of values. -/
inductive Kind where
  | null
  | bool
  | integer
  | decimal
  | text
  | list
  | table
  | other (label : String)
deriving DecidableEq

/-- The kind of a value. -/
def kind : Document → Kind
  | .null => .null
  | .bool _ => .bool
  | .integer _ => .integer
  | .decimal .. => .decimal
  | .text _ => .text
  | .list _ => .list
  | .table _ => .table
  | .other label => .other label

/-- The name of a kind in messages. -/
def Kind.label : Kind → String
  | .null => "NoneType"
  | .bool => "bool"
  | .integer => "int"
  | .decimal => "float"
  | .text => "str"
  | .list => "list"
  | .table => "dict"
  | .other label => label

/-- The name of a kind without the module that it comes from. -/
def Kind.shortLabel (kind : Kind) : String :=
  String.ofList ((kind.label.toList.splitOn '.').getLast?.getD [])

/-- The empty table. -/
def empty : Document := .table []

/-- The value under a name of a table. -/
def field? (name : String) : Document → Option Document
  | .table entries => entries.lookup name
  | _ => none

/-- Follows names from table to table. -/
def follow? (d : Document) : List String → Option Document
  | [] => some d
  | name :: rest =>
    match d.field? name with
    | some inner => inner.follow? rest
    | none => none

/-- The parts of a key between its dots. -/
def keyParts (key : String) : List String :=
  (key.toList.splitOn '.').map String.ofList

/-- The value under a dotted key. -/
def find? (d : Document) (key : String) : Option Document :=
  d.follow? (keyParts key)

/-- Nothing, zero, and whatever is empty counts as no; a value of another kind counts as yes. -/
def isYes : Document → Bool
  | .null => false
  | .bool b => b
  | .integer n => n != 0
  | .decimal m _ => m != 0
  | .text s => s != ""
  | .list items => !items.isEmpty
  | .table entries => !entries.isEmpty
  | .other _ => true

/-- Does a text occur in another? -/
def occursIn (part : List Char) : List Char → Bool
  | [] => part.isEmpty
  | c :: rest => part.isPrefixOf (c :: rest) || occursIn part rest

/-- Is the value this text? -/
def isText (name : String) : Document → Bool
  | .text s => s == name
  | _ => false

/-- Does the value hold a name? A list holds it as an element, a table as a name, a text as a part;
other values hold nothing and cannot be asked. -/
def holds? (name : String) : Document → Option Bool
  | .list items => some (items.any (isText name))
  | .table entries => some (entries.any fun (key, _) => key == name)
  | .text s => some (occursIn name.toList s.toList)
  | _ => none

/-- A list of texts. -/
def ofTexts (texts : List String) : Document :=
  .list (texts.map .text)

end Document

end ClassAtlas
