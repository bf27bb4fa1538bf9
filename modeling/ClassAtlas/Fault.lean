import ClassAtlas.Document
import ClassAtlas.Text.Quoted

/-!
# Faults

Everything that can go wrong, by its cause. `Fault.message` words each cause once for the whole
program. An `Action` prints text and may end in a fault; what it printed until then stays printed.
-/

namespace ClassAtlas

open ClassAtlas.Text

/-- Why bytes are no text. -/
inductive BadByte where
  /-- No character starts with the byte. -/
  | start
  /-- The byte does not go on with the character. -/
  | continuation
  /-- The text ends inside of a character. -/
  | endOfData
deriving DecidableEq

/-- A cause of failure. -/
inductive Fault where
  /-- A table has no entry of this name. -/
  | missingKey (name : String)
  /-- A value that is no table was asked for a named entry. -/
  | notATable (given : Document.Kind)
  /-- A value cannot be asked whether it holds a name. -/
  | notSearchable (given : Document.Kind)
  /-- A value that is no text was given as a pattern. -/
  | notAPattern (given : Document.Kind)
  /-- There is no current class to work on. -/
  | noCurrentClass
  /-- A class has no set of attributes to add to. -/
  | noAttributes
  /-- A class has no list of functions to add to. -/
  | noFunctions
  /-- A decorator has no text. -/
  | unprintable
  /-- The topological order was asked for under a name that nobody provides. -/
  | unsupportedOrder
  /-- A text is no source text. -/
  | invalidSource
  /-- A text is no configuration. -/
  | invalidConfiguration (report : String)
  /-- A path names nothing. -/
  | namelessPath
  /-- There is nothing at a path. -/
  | notFound (path : String)
  /-- A path leads through something that is no directory. -/
  | notADirectory (path : String)
  /-- A directory was given where a file is wanted. -/
  | isADirectory (path : String)
  /-- There is something at a path where a directory is to be made. -/
  | alreadyExists (path : String)
  /-- Bytes are no text: the first one or several of them that are wrong, and their place. -/
  | undecodable (reason : BadByte) (bytes : List Nat) (position : Nat)
  /-- A package has a child of this name already. -/
  | childExists (name : String)
  /-- An operation was asked of a child that is not there. -/
  | noChild (operation : String)
  /-- A record does not have its form. -/
  | invalidRecord (report : String)
  /-- A value lacks a field that a comparison reads. -/
  | noField (owner field : String)
  /-- The console does not take a text. -/
  | refusedText (report : String)
  /-- Access was refused. -/
  | denied
  /-- The user stopped the program. -/
  | interrupted

/-- The text of bytes that cannot be decoded. -/
def undecodableText (reason : BadByte) (bytes : List Nat) (position : Nat) : String :=
  let place := match bytes with
    | [b] => "byte 0x" ++ String.ofList (hexPadded 2 b) ++ " in position " ++ toString position
    | _ => "bytes in position " ++ toString position ++ "-"
        ++ toString (position + bytes.length - 1)
  let why := match reason with
    | .start => "invalid start byte"
    | .continuation => "invalid continuation byte"
    | .endOfData => "unexpected end of data"
  "'utf-8' codec can't decode " ++ place ++ ": " ++ why

/-- The text of a fault. -/
def Fault.message : Fault → String
  | .missingKey name => quoted name
  | .notATable .text => "string indices must be integers, not 'str'"
  | .notATable .list => "list indices must be integers or slices, not str"
  | .notATable kind => "'" ++ kind.label ++ "' object is not subscriptable"
  | .notSearchable kind => "argument of type '" ++ kind.label ++ "' is not iterable"
  | .notAPattern kind => "expected str, bytes or os.PathLike object, not " ++ kind.shortLabel
  | .noCurrentClass => "'NoneType' object has no attribute 'name'"
  | .noAttributes => "'NoneType' object has no attribute 'add'"
  | .noFunctions => "'NoneType' object has no attribute 'append'"
  | .unprintable => "Unable to avoid backslash in f-string expression part"
  | .unsupportedOrder => "'ClassGraph' object has no attribute 'get_outgoing_relations'"
  | .invalidSource => "invalid syntax"
  | .invalidConfiguration report => report
  | .namelessPath => "list index out of range"
  | .notFound path => "[Errno 2] No such file or directory: " ++ quoted path
  | .notADirectory path => "[Errno 20] Not a directory: " ++ quoted path
  | .isADirectory path => "[Errno 21] Is a directory: " ++ quoted path
  | .alreadyExists path => "[Errno 17] File exists: " ++ quoted path
  | .undecodable reason bytes position => undecodableText reason bytes position
  | .childExists name => "Child with name " ++ name ++ " already exists"
  | .noChild operation => "'NoneType' object has no attribute '" ++ operation ++ "'"
  | .invalidRecord report => report
  | .noField owner field => "'" ++ owner ++ "' object has no attribute '" ++ field ++ "'"
  | .refusedText report => report
  | .denied => ""
  | .interrupted => ""

/-- Is the fault an error? That the user stopped the program is none. -/
def Fault.isError : Fault → Bool
  | .interrupted => false
  | _ => true

/-! ## Actions -/

/-- Prints text, and gives a result or ends in a fault. -/
abbrev Action := ExceptT Fault (StateM String)

namespace Action

/-- Prints text. -/
def print (s : String) : Action Unit :=
  fun printed => (.ok (), printed ++ s)

/-- Prints a line. -/
def printLine (s : String) : Action Unit :=
  print (s ++ "\n")

/-- Ends in a fault if there is one. -/
def ofExcept {α : Type} (r : Except Fault α) : Action α :=
  fun printed => (r, printed)

/-- The outcome of an action and the text it printed. -/
def outcome {α : Type} (a : Action α) : Except Fault α × String :=
  a ""

end Action

end ClassAtlas
