import ClassAtlas.Scan

/-!
# The command line

The arguments are a path and options; an option may be shortened as long as it stays clear which is
meant. A run loads the settings from the working directory, analyses the project at the path, and saves
its diagram. How settings are read, where lines are printed and what the time is are given to a run from
outside. Every fault of a run is reported as an error.
-/

namespace ClassAtlas.CommandLine

open ClassAtlas.Text

/-! ## Options -/

/-- The options. -/
inductive Flag where
  | help
  | output
  | summary
  | title
deriving DecidableEq

/-- The texts of the options. -/
def flags : List (String × Flag) :=
  [("-h", .help), ("--help", .help), ("-o", .output), ("--output", .output),
    ("--summary", .summary), ("-t", .title), ("--title", .title)]

/-- Does an option take a value? -/
def Flag.takesValue : Flag → Bool
  | .output | .title => true
  | .help | .summary => false

/-- The texts of an option together. -/
def Flag.label (flag : Flag) : String :=
  String.intercalate "/" ((flags.filter (·.2 = flag)).map (·.1))

/-- What one argument is. -/
inductive Word where
  /-- No option. -/
  | plain (text : String)
  /-- The mark behind which no argument is an option. -/
  | rest
  /-- An option, and a value that stands in the same argument: `joined` directly to the letter of the
  option, or else behind an equals sign. -/
  | option (flag : Flag) (joined : Bool) (value : Option String)
  /-- An option that nobody knows. -/
  | unknown (text : String)

/-- What the arguments ask for. -/
structure Request where
  path : Option String := none
  output : Option String := none
  title : Option String := none
  summary : Bool := false

/-- Why the arguments are not followed. -/
inductive Stop where
  /-- Help was asked for. -/
  | help
  | ambiguous (text : String) (candidates : List String)
  | ignoredValue (flag : Flag) (value : String)
  | missingValue (flag : Flag)
  | missingPath
  | unrecognized (texts : List String)

/-- The text of a refusal. -/
def Stop.message : Stop → String
  | .help => ""
  | .ambiguous text candidates =>
    "ambiguous option: " ++ text ++ " could match " ++ String.intercalate ", " candidates
  | .ignoredValue flag value =>
    "argument " ++ flag.label ++ ": ignored explicit argument " ++ quoted value
  | .missingValue flag => "argument " ++ flag.label ++ ": expected one argument"
  | .missingPath => "the following arguments are required: path"
  | .unrecognized texts => "unrecognized arguments: " ++ String.intercalate " " texts

/-- The name of the program. -/
def programName : String := "pyclassanalyzer"

/-- How the program is called. -/
def usage : String :=
  "usage: " ++ programName ++ " [-h] [-o OUTPUT] [--summary] [-t TITLE] path\n"

/-- What the options are for. -/
def help : String :=
  usage ++ "
Python 클래스 구조 분석 및 PlantUML 다이어그램 생성

positional arguments:
  path                  분석할 Python 파일 또는 디렉토리 경로

options:
  -h, --help            show this help message and exit
  -o OUTPUT, --output OUTPUT
                        출력할 PlantUML 파일 경로 (기본값:
                        [project_name]_[timestamp].puml\")
  --summary             분석 결과 요약 출력
  -t TITLE, --title TITLE
                        다이어그램 제목 (기본값: 프로젝트 이름 기반 자동 생성)
"

/-- The line that a refusal ends with. -/
def Stop.lastLine : Stop → Option String
  | .help => none
  | stop => some (programName ++ ": error: " ++ stop.message)

/-- The exit code of a refusal. -/
def Stop.exitCode : Stop → Nat
  | .help => 0
  | _ => 2

/-! ## Words -/

/-- Cuts a text at its first equals sign. -/
def splitEquals (cs : List Char) : Option (List Char × List Char) :=
  if cs.contains '=' then some (cs.takeWhile (· != '='), (cs.dropWhile (· != '=')).drop 1) else none

/-- Is the text a negative number? -/
def isNegativeNumber : List Char → Bool
  | '-' :: rest =>
    let whole := rest.takeWhile Char.isDigit
    match rest.dropWhile Char.isDigit with
    | [] => !whole.isEmpty
    | '.' :: places => !places.isEmpty && places.all Char.isDigit
    | _ => false
  | _ => false

/-- An option in a text that starts with two dashes, which may be shortened. -/
def longOption (text : String) : Except Stop (Option Word) :=
  let (name, value) := match splitEquals text.toList with
    | some (name, value) => (name, some (String.ofList value))
    | none => (text.toList, none)
  match flags.filter fun (full, _) => name.isPrefixOf full.toList with
  | [] => .ok none
  | [(_, flag)] => .ok (some (.option flag false value))
  | several => .error (.ambiguous text (several.map (·.1)))

/-- An option in a text that starts with a single dash: the letter, and its value directly behind. -/
def shortOption (text : String) : Option Word :=
  let cs := text.toList
  (flags.lookup (String.ofList (cs.take 2))).map fun flag =>
    .option flag true (some (String.ofList (cs.drop 2)))

/-- What an argument in front of the mark is. -/
def word (text : String) : Except Stop Word := do
  let cs := text.toList
  if cs.head? != some '-' || cs.length == 1 then return .plain text
  match flags.lookup text with
  | some flag => return .option flag false none
  | none => pure ()
  match (splitEquals cs).bind fun (name, value) =>
      (flags.lookup (String.ofList name)).map fun flag => (flag, String.ofList value) with
  | some (flag, value) => return .option flag false (some value)
  | none => pure ()
  match if cs[1]? = some '-' then longOption text else .ok (shortOption text) with
  | .error stop => .error stop
  | .ok (some w) => return w
  | .ok none =>
    if isNegativeNumber cs || cs.contains ' ' then return .plain text else return .unknown text

/-- What the arguments are. -/
def words : List String → Except Stop (List Word)
  | [] => .ok []
  | "--" :: more => .ok (.rest :: more.map .plain)
  | text :: more => do return (← word text) :: (← words more)

/-! ## Requests -/

/-- Follows an option that takes a value. -/
def Request.set (r : Request) (flag : Flag) (value : String) : Request :=
  match flag with
  | .output => { r with output := some value }
  | .title => { r with title := some value }
  | .help | .summary => r

/-- Follows options that take no value, in turn. -/
def Request.raise (r : Request) : List Flag → Except Stop Request
  | [] => .ok r
  | .help :: _ => .error .help
  | .summary :: more => Request.raise { r with summary := true } more
  | _ :: more => r.raise more

/-- What an argument with options comes to. -/
structure Spelled where
  /-- The options without a value. -/
  raised : List Flag
  /-- An option that takes a value, with what is there of it. -/
  valued : Option (Flag × Option String) := none
  /-- Letters that are no options. -/
  extra : List String := []

/-- Reads an option with what stands behind it in the same argument: letters joined to an option that takes
no value are options again. -/
def spell (flag : Flag) (joined : Bool) (raised : List Flag) :
    Option (List Char) → Except Stop Spelled
  | none =>
    if flag.takesValue then .ok { raised := raised, valued := some (flag, none) }
    else .ok { raised := raised ++ [flag] }
  | some value =>
    if flag.takesValue then
      .ok { raised := raised, valued := some (flag, some (String.ofList value)) }
    else match value with
      | c :: rest =>
        if !joined || c = '-' then .error (.ignoredValue flag (String.ofList value))
        else match flags.lookup (String.ofList ['-', c]) with
          | none => .ok { raised := raised ++ [flag], extra := [String.ofList ('-' :: value)] }
          | some next =>
            match rest with
            | [] => spell next true (raised ++ [flag]) none
            | '=' :: rest => spell next false (raised ++ [flag]) (some rest)
            | rest => spell next true (raised ++ [flag]) (some rest)
      | [] => .error (.ignoredValue flag "")
termination_by value => (value.map (·.length + 1)).getD 0

/-- Reads words in turn: `extra` are those that fit nowhere. -/
def readWords (r : Request) (extra : List String) : List Word → Except Stop (Request × List String)
  | [] => .ok (r, extra)
  | .unknown text :: more => readWords r (extra ++ [text]) more
  | .rest :: .plain text :: more =>
    if r.path.isNone then readWords { r with path := some text } extra more
    else readWords r (extra ++ ["--", text]) more
  | .rest :: more => readWords r (extra ++ ["--"]) more
  | .plain text :: .rest :: more =>
    if r.path.isNone then readWords { r with path := some text } extra more
    else readWords r (extra ++ [text, "--"]) more
  | .plain text :: more =>
    if r.path.isNone then readWords { r with path := some text } extra more
    else readWords r (extra ++ [text]) more
  | .option flag joined value :: more =>
    match spell flag joined [] (value.map String.toList) with
    | .error stop => .error stop
    | .ok spelled =>
      match spelled.valued with
      | none =>
        match r.raise spelled.raised with
        | .ok r => readWords r (extra ++ spelled.extra) more
        | .error stop => .error stop
      | some (flag, some value) =>
        match r.raise spelled.raised with
        | .ok r => readWords (r.set flag value) extra more
        | .error stop => .error stop
      | some (flag, none) =>
        match more with
        | .plain value :: more =>
          match r.raise spelled.raised with
          | .ok r => readWords (r.set flag value) extra more
          | .error stop => .error stop
        | _ => .error (.missingValue flag)

/-- What the arguments ask for: the request and its path. -/
def request (arguments : List String) : Except Stop (Request × String) := do
  let (r, extra) ← readWords {} [] (← words arguments)
  match r.path with
  | none => .error .missingPath
  | some path => if extra.isEmpty then .ok (r, path) else .error (.unrecognized extra)

/-! ## Runs -/

/-- The name of the settings file. -/
def settingsFile : String := "config.toml"

/-- What a run finds around it. -/
structure Host where
  /-- Reads settings from their text. -/
  readSettings : String → Except Fault Document
  /-- Where lines are printed. -/
  console : Console
  /-- The moment of the run. -/
  now : Moment
  /-- What an analysis ends in right away, if there is any such trouble. -/
  trouble : Option Fault := none

/-- The settings of a workspace. -/
def loadSettings (readSettings : String → Except Fault Document) (w : Workspace) : Except Fault Document := do
  readSettings (← w.readText (Path.join w.cwd settingsFile))

/-- The directory for diagrams that are given no path. -/
def outputDirectory : String := "outputs"

/-- The path that a diagram is saved to: the one asked for, or one named after the project and the
moment. -/
def outputPath (w : Workspace) (scan : Scan) (now : Moment) : Option String → String
  | none | some "" =>
    Path.tidy (Path.joinAll w.cwd [outputDirectory, scan.fileName w now])
  | some output => output

/-- Analyses the project of a scan. -/
def analyze (trouble : Option Fault) (scan : Scan) : Job Scan := do
  match trouble with
  | some fault => Job.ofExcept (.error fault)
  | none =>
    let (scan, fault) := scan.analyze (← Job.workspace)
    Job.printLines scan.printedLines
    match fault with
    | some fault => Job.ofExcept (.error fault)
    | none => return scan

/-- Makes sure that the directory for a path is there. -/
def ensureDirectoryFor (path : String) : Job Unit := do
  let directory := Path.parent path
  if !(← Job.workspace).exists directory then
    Job.change (·.ensureDirectory directory)

/-- How a run ends: well, or with an error to report. -/
inductive Ending where
  | done
  | failed (report : String)

/-- Saves the diagram of what was analysed, in a directory that is made if it is not there. -/
def deliver (r : Request) (now : Moment) (scan : Scan) : Job Ending := do
  let output := outputPath (← Job.workspace) scan now r.output
  ensureDirectoryFor output
  if ← scan.save output r.title then
    scan.printCount
    return .done
  else return .failed ("Error: 파일 저장 실패: " ++ output)

/-- Draws and saves what was analysed, behind a summary if there is to be one. -/
def draw (r : Request) (now : Moment) (scan : Scan) : Job Ending := do
  if r.summary then scan.printSummary
  deliver r now scan

/-- Runs a request. -/
def perform (host : Host) (r : Request) (path : String) : Job Ending := do
  let w ← Job.workspace
  let config ← Job.ofExcept (loadSettings host.readSettings w)
  let target := Path.tidy path
  if !w.exists target then
    return .failed ("Error: 지정된 경로를 찾을 수 없습니다: " ++ path)
  let scan : Scan := { path := target, config := config }
  if w.isFile target then
    Job.printLine "Warning: 현재 파일은 지원되지 않습니다."
    return .failed ""
  draw r host.now (← if w.isDirectory target then analyze host.trouble scan else pure scan)

/-- The report of a fault. -/
def faultReport (path : String) : Fault → String
  | .interrupted => "\n사용자에 의해 중단되었습니다."
  | .notFound _ => "Error: 지정된 경로를 찾을 수 없습니다. toml"
  | .denied => "Error: 파일 접근 권한이 없습니다: " ++ path
  | .invalidConfiguration report => "Error: TOML 파일 파싱 오류: " ++ report
  | fault => "Error: " ++ fault.message

/-- What a run leaves behind. -/
structure Outcome where
  exitCode : Nat
  printed : String
  complaints : String
  workspace : Workspace

/-- The outcome of a report: an empty one is not printed. -/
def Outcome.ofReport (s : Session) (report : String) : Outcome :=
  { exitCode := 1, printed := s.printed
    complaints := if report = "" then "" else report ++ "\n", workspace := s.workspace }

/-- Runs a request in a workspace. -/
def run (host : Host) (r : Request) (path : String) (w : Workspace) : Outcome :=
  match perform host r path host.console { workspace := w } with
  | (.ok .done, s) =>
    { exitCode := 0, printed := s.printed, complaints := "", workspace := s.workspace }
  | (.ok (.failed report), s) => .ofReport s report
  | (.error fault, s) => .ofReport s (faultReport path fault)

end ClassAtlas.CommandLine
