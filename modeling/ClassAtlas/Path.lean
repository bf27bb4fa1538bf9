/-!
# Paths

A path is a text of names between slashes. It may be relative to a working directory, name the
directory it stands in (`.`) or the one above (`..`), and repeat slashes. The rules are those of POSIX
paths: two slashes in front are kept, three or more count as one, and `..` above the root is the root.
-/

namespace ClassAtlas.Path

/-! ## Pieces -/

/-- The pieces of a text between its slashes, the empty ones included. -/
def pieces (path : String) : List String :=
  (path.toList.splitOn '/').map String.ofList

/-- Joins names by slashes. -/
def joinNames (names : List String) : String :=
  String.intercalate "/" names

/-- Is the character a dot or a slash? -/
def isDotOrSlash (c : Char) : Bool :=
  c == '.' || c == '/'

/-- Removes the dots and slashes at both ends of a text. -/
def trim (cs : List Char) : List Char :=
  ((cs.dropWhile isDotOrSlash).reverse.dropWhile isDotOrSlash).reverse

/-- The names of a path, as characters: dots and slashes at both ends count for nothing, and so do
repeated slashes. -/
def nameChars (cs : List Char) : List (List Char) :=
  ((trim cs).splitOn '/').filter (!·.isEmpty)

/-- The names along a path. -/
def names (path : String) : List String :=
  (nameChars path.toList).map String.ofList

/-- The last name along a path, if it has any. -/
def lastName? (path : String) : Option String :=
  (names path).getLast?

/-! ## Normal form -/

/-- How many slashes a normal path keeps in front. -/
def leadingSlashes (path : String) : Nat :=
  match path.toList with
  | '/' :: '/' :: '/' :: _ => 1
  | '/' :: '/' :: _ => 2
  | '/' :: _ => 1
  | _ => 0

/-- Takes one more name into the names so far, which are given in reverse. A `..` undoes the name
before it; with none to undo it is kept, but not above the root. -/
def pushName (rooted : Bool) (reversed : List String) (name : String) : List String :=
  if name == "" || name == "." then reversed
  else if name == ".." then
    match reversed with
    | [] => if rooted then [] else [".."]
    | last :: rest => if last == ".." then ".." :: reversed else rest
  else name :: reversed

/-- The shortest path of the same meaning, by its text alone. -/
def normal (path : String) : String :=
  let slashes := leadingSlashes path
  let kept := ((pieces path).foldl (pushName (slashes != 0)) []).reverse
  let text := String.ofList (List.replicate slashes '/') ++ joinNames kept
  if text == "" then "." else text

/-- Does the path start at the root? -/
def isAbsolute (path : String) : Bool :=
  path.startsWith "/"

/-- Goes from one path along another; an absolute one starts anew. -/
def join (base path : String) : String :=
  if isAbsolute path then path
  else if base == "" || base.endsWith "/" then base ++ path
  else base ++ "/" ++ path

/-- Goes from one path along several names. -/
def joinAll (base : String) (parts : List String) : String :=
  parts.foldl join base

/-- The absolute path in normal form. -/
def absolute (cwd path : String) : String :=
  normal (if isAbsolute path then path else join cwd path)

/-- What stands behind the last slash. -/
def baseName (path : String) : String :=
  ((pieces path).getLast?).getD ""

/-- What stands in front of the last slash; slashes at its end are dropped unless it has nothing
else. -/
def dirName (path : String) : String :=
  match (path.toList.splitOn '/').reverse with
  | [] => ""
  | [_] => ""
  | _ :: _ =>
    let head := (path.toList.reverse.dropWhile (· != '/')).reverse
    let stripped := (head.reverse.dropWhile (· == '/')).reverse
    String.ofList (if stripped.isEmpty then head else stripped)

/-! ## Relative paths -/

/-- The names of an absolute path. -/
def steps (path : String) : List String :=
  (pieces path).filter (· != "")

/-- Drops what two lists of names have in common at the front. -/
def dropCommon : List String → List String → List String × List String
  | a :: as, b :: bs => if a == b then dropCommon as bs else (a :: as, b :: bs)
  | as, bs => (as, bs)

/-- The path that leads from `start` to `path`. -/
def relative (cwd path start : String) : String :=
  let (above, below) := dropCommon (steps (absolute cwd start)) (steps (absolute cwd path))
  match above.map (fun _ => "..") ++ below with
  | [] => "."
  | names => joinNames names

/-! ## Tidy paths

A tidy path has no empty names and no `.`, but keeps every `..`. -/

/-- The tidy form of a path. -/
def tidy (path : String) : String :=
  let kept := (pieces path).filter fun name => name != "" && name != "."
  let text := String.ofList (List.replicate (leadingSlashes path) '/') ++ joinNames kept
  if text == "" then "." else text

/-- The directory that a tidy path lies in: the path without its last name. -/
def parent (path : String) : String :=
  let kept := (pieces path).filter fun name => name != "" && name != "."
  let text := String.ofList (List.replicate (leadingSlashes path) '/') ++ joinNames kept.dropLast
  if text == "" then "." else text

end ClassAtlas.Path
