import ClassAtlas.Fault
import ClassAtlas.Text.Glob

/-!
# Configuration

Looking up a key never fails: a key that leads nowhere is reported on the console and gives an empty
table. Asking the result for an entry, or whether it holds a name, may fail.
-/

namespace ClassAtlas

open ClassAtlas.Text

/-- What is reported for a key that leads nowhere. -/
def missingKeyReport : String := "Key error when parsing toml"

/-- The report on a line of its own. -/
def missingKeyNotice : String := missingKeyReport ++ "\n"

namespace Config

/-- The value under a dotted key, or an empty table after a report. -/
def get (config : Document) (key : String) : Action Document :=
  match config.find? key with
  | some d => pure d
  | none => do
    Action.print missingKeyNotice
    return Document.empty

/-- The entry of this name. -/
def entry (d : Document) (name : String) : Except Fault Document :=
  match d with
  | .table entries =>
    match entries.lookup name with
    | some v => .ok v
    | none => .error (.missingKey name)
  | d => .error (.notATable d.kind)

/-- Follows names from table to table; each has to be there. -/
def demandAll (d : Document) : List String → Except Fault Document
  | [] => .ok d
  | name :: rest => do demandAll (← entry d name) rest

/-- The value under a dotted key that has to be there. -/
def demand (d : Document) (key : String) : Except Fault Document :=
  demandAll d (Document.keyParts key)

/-- Does the value hold the name? -/
def holds (d : Document) (name : String) : Except Fault Bool :=
  match d.holds? name with
  | some b => .ok b
  | none => .error (.notSearchable d.kind)

/-- Does the name match the pattern, which has to be a text? -/
def matchesName (pattern : Document) (name : String) : Except Fault Bool :=
  match pattern with
  | .text p => .ok (Glob.accepts p name)
  | d => .error (.notAPattern d.kind)

end Config

end ClassAtlas
