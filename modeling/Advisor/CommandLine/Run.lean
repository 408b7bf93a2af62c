import Advisor.Config.Load
import Advisor.Config.Merge
import Advisor.Scan.Files
import Advisor.Script.Tree

/-!
# Running a command line

From the words of a command line to what is printed, what is written and the exit code. A run reads
files from a `World` and leaves another one.
-/

namespace Advisor

/-- Why a run breaks off. -/
inductive RunFault where
  | config (f : ConfigFault)
  | misfit (m : Setting.Misfit)
  | scan (f : ScanFault)
  /-- Standard input is not text. -/
  | inputNotText
  | format (name : String)
  /-- The place for the report is not written like a path. -/
  | outNotPath
  | out (f : PathFault)
  | gate (f : GateFault)
  deriving DecidableEq

/-- What is said when a configuration cannot be had. -/
def ConfigFault.message : ConfigFault → String
  | missing path => "Config file not found: " ++ path
  | isFolder => "the config file is a folder"
  | locked reason => "the config file cannot be opened: " ++ reason
  | notUtf8 => "the config file is not text"
  | unreadable _ => "the config file cannot be read"
  | misfit _ => "a value of the config file does not fit"

/-- What is said when a run breaks off. -/
def RunFault.message : RunFault → String
  | config f => f.message
  | misfit _ => "a value of the config file does not fit"
  | scan (.manifest _) => "a manifest cannot be compared"
  | scan .notText => "the content is not text"
  | scan .linkLoop => "the path is a loop of links"
  | inputNotText => "standard input is not text"
  | format name => "Unsupported report format: " ++ name
  | outNotPath => "the place for the report is not a path"
  | out _ => "the report cannot be written"
  | gate (.unknownSeverity name) => "unknown severity " ++ Text.quoted name
  | gate .notComparable => "a limit is not a number"

/-- What a run leaves. -/
structure RunOutcome where
  exitCode : Nat
  stdout : String
  stderr : String
  world : World
  deriving Inhabited

/-! ## The log -/

/-- What is said of a note on a manifest. -/
def ManifestNote.message : ManifestNote → String
  | notAnObject => "Content is not a JSON object, skipping dependency check"
  | incomparable version =>
    "Cannot compare version " ++ Text.quoted version ++ " semantically, not flagging"

/-- What is said of an event. -/
def ScanEvent.message : ScanEvent → String
  | unreadable path reason => "Unable to read " ++ path ++ ": " ++ reason
  | tooLarge path kilobytes =>
    "Skipping " ++ path ++ ": larger than " ++ kilobytes.repr ++ " KB"
  | noKind path => "Skipping " ++ path ++ ": no input type for extension"
  | manifest note => note.message

/-- The part of the program that an event comes from. -/
def ScanEvent.logger : ScanEvent → String
  | manifest _ => Report.programName ++ ".dependencies"
  | _ => Report.programName ++ ".scanner"

/-- Whether an event is told also when nobody asks for details. -/
def ScanEvent.isWarning : ScanEvent → Bool
  | unreadable _ _ => true
  | _ => false

/-- The line of the log for an event. -/
def ScanEvent.line (e : ScanEvent) : String :=
  (if e.isWarning then "WARNING " else "DEBUG ") ++ e.logger ++ ": " ++ e.message

namespace Run

/-- Lines as they are printed. -/
def printed (lines : List String) : String := String.join (lines.map (· ++ "\n"))

/-- What the log shows of events. -/
def logLines (verbose : Bool) (events : List ScanEvent) : List String :=
  (events.filter fun e => verbose || e.isWarning).map ScanEvent.line

/-- Complaints as they are printed. -/
def gateLines (complaints : List String) : List String := complaints.map ("[gate] " ++ ·)

/-! ## Scanning -/

/-- The path that stands for standard input. -/
def inputPath : String := "-"

/-- How standard input is called in a report. -/
def inputName : String := "<stdin>"

/-- How texts are scanned. -/
def textSettings (m : Machine) (c : Config) (markup : Bool) : TextSettings :=
  { rules := ⟨c.enabledRules.getD [], c.disabledRules⟩
    directives := c.directives
    scheme := VersionScheme.ofName c.scheme.shown
    markup
    nesting := m.manifestNesting
    parse := Script.parse }

/-- Scans standard input. Some machines hand it over with its line ends as they are. -/
def scanInput (m : Machine) (input : ByteArray) (c : Config) (markup : Bool) :
    Except RunFault (ScanResult × List ScanEvent) :=
  match Text.decodeStrict input.toList with
  | none => .error .inputNotText
  | some cs =>
    let content := String.ofList (if m.unifiesInput then Text.unifyLineEnds cs else cs)
    match scanText (textSettings m c markup) (some content) ((c.kind.map Setting.shown).getD "")
      inputName with
    | (.error f, _) => .error (.scan f)
    | (.ok report, notes) => .ok (⟨[report], 1⟩, notes.map .manifest)

/-- An ending as a configuration names it. -/
def extensionOf : Setting → Except Setting.Misfit String
  | .text s => .ok (Selection.normalExtension s)
  | _ => .error .notText

/-- The names among excluded settings; nothing else can be the name of a file. -/
def excludedNames (settings : List Setting) : List String :=
  settings.filterMap fun s =>
    match s with
    | .text name => some name
    | _ => none

/-- Scans a file or a folder. -/
def scanFiles (w : World) (c : Config) (path : String) (markup : Bool) :
    Except RunFault (ScanResult × List ScanEvent) := do
  let root := PathName.ofString path
  if (w.resolve root).toOption.isNone then throw (.scan .linkLoop)
  let extensions ← (c.extensions.mapM extensionOf).mapError .misfit
  let settings : ScanSettings :=
    { selection :=
        { excludes := excludedNames c.exclude, extensions
          maxKilobytes := c.maxKilobytes, skipGenerated := c.skipGenerated }
      kind := c.kind.map Setting.shown
      text := textSettings w.machine c markup }
  match Scan.files w settings root with
  | (.error f, _) => throw (.scan f)
  | (.ok r, events) => return (r, events)

/-! ## The report -/

/-- Where a report goes. Returns what is printed and the world that is left. -/
def deliver (w : World) (text : String) : Option Setting → Except RunFault (String × World)
  | none => .ok (text ++ "\n", w)
  | some (.text path) =>
    match w.writeWithFolders (.ofString path) text.toUTF8 with
    | .ok after => .ok ("", after)
    | .error f => .error (.out f)
  | some _ => .error .outNotPath

/-- The format that a configuration asks for. -/
def formatOf (s : Setting) : Except RunFault Report.Format :=
  match s with
  | .text name =>
    match Report.Format.ofName? name with
    | some f => .ok f
    | none => .error (.format name)
  | s => .error (.format s.shown)

/-! ## The run -/

/-- What is wrong with a configuration for a command line. -/
def complaints (c : Config) (a : ScanArguments) : Except RunFault (List String) := do
  let errors ← c.check.mapError .misfit
  return if a.path == inputPath && c.kind.isNone then
      errors ++ ["--input-type is required when reading standard input"]
    else errors

/-- The configuration of a command line. -/
def configOf (w : World) (a : ScanArguments) : Except RunFault Config := do
  let c ← (Config.load w a.config).mapError .config
  match c.merge a with
  | (merged, none) => return merged
  | (_, some m) => throw (.misfit m)

/-- Scans with a configuration that nothing is wrong with. -/
def scanWith (w : World) (input : ByteArray) (c : Config) (a : ScanArguments) :
    Except RunFault RunOutcome := do
  let (r, events) ←
    if a.path == inputPath then scanInput w.machine input c a.markup
    else scanFiles w c a.path a.markup
  let format ← formatOf c.format
  let (stdout, world) ← deliver w (Report.text format r) c.out
  let reasons ← (c.gate.reasons r).mapError .gate
  return {
    exitCode := if reasons.isEmpty then 0 else 2
    stdout
    stderr := printed (logLines a.verbose events ++ [Report.summary r] ++ gateLines reasons)
    world }

/-- Runs a scan. -/
def scan (w : World) (input : ByteArray) (a : ScanArguments) : Except RunFault RunOutcome := do
  let c ← configOf w a
  match ← complaints c a with
  | [] => scanWith w input c a
  | errors => return { exitCode := 2, stdout := "", stderr := printed (gateLines errors), world := w }

/-- How a program is called. -/
def usage (program : String) : String := "usage: " ++ program ++ " [-h] [options] [path]\n"

/-- What is shown instead of a run: the exit code, standard output and standard error. -/
def stopped : Stop → Nat × String × String
  | .help program => (0, usage program, "")
  | .version => (0, Report.programName ++ " " ++ Report.programVersion ++ "\n", "")
  | .fault program f => (2, "", program ++ ": error: " ++ f.message ++ "\n")

/-- Runs a command line. -/
def commandLine (w : World) (input : ByteArray) (words : List String) : Except RunFault RunOutcome :=
  match ScanArguments.parse words with
  | .ok a => scan w input a
  | .error s =>
    let (exitCode, stdout, stderr) := stopped s
    .ok { exitCode, stdout, stderr, world := w }

end Run

end Advisor
