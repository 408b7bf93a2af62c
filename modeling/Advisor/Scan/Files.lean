import Advisor.Scan.Selection
import Advisor.Scan.Text
import Advisor.Text.Utf8

/-!
# Scanning files

Scans a file or all selected files of a folder. A file that cannot be read is itself a finding and
does not stop the scan. What happens on the way is kept as a list of `ScanEvent`s.
-/

namespace Advisor

/-- What happens during a scan. -/
inductive ScanEvent where
  | unreadable (path reason : String)
  | tooLarge (path : String) (kilobytes : Int)
  | noKind (path : String)
  | manifest (note : ManifestNote)
  deriving DecidableEq

/-- What a scan of files depends on. -/
structure ScanSettings where
  selection : Selection
  /-- The kind of all content. If there is none or an empty one, it is taken from the names. -/
  kind : Option String
  text : TextSettings
  deriving Inhabited

namespace Scan

/-- The content of a file as text. -/
def contentOf (bytes : ByteArray) : String :=
  String.ofList (Text.unifyLineEnds (Text.decode bytes.toList))

/-- How a file is called in a report: by its real place below the base, or by its path if that lies
elsewhere. -/
def reportedPath (w : World) (base place : List String) : String :=
  let path := Selection.pathOf place
  match w.resolve path with
  | .ok real =>
    match base.isPrefixOf? real with
    | some below => PathName.toString ⟨"", below⟩
    | none => path.toString
  | .error _ => path.toString

/-- The report of a file that cannot be read. -/
def unreadable (path kind reason : String) : FileReport :=
  { path, kind
    findings := [{ title := "File scan error", severity := "Medium"
                   description := "Unable to read file during scan: " ++ reason
                   place := .unknown, rule := unreadableRule }]
    validation := none }

/-- Scans a file that has been selected. -/
def selected (w : World) (s : ScanSettings) (base place : List String) (kind : String) :
    Except ScanFault FileReport × List ScanEvent :=
  let path := Selection.pathOf place
  let name := reportedPath w base place
  match w.find? path with
  | some (_, .file _ (some reason)) =>
    (.ok (unreadable name kind reason), [.unreadable path.toString reason])
  | some (_, .file bytes none) =>
    let markup := s.text.markup || path.suffix == ".jsx"
    let (r, notes) := scanText { s.text with markup } (some (contentOf bytes)) kind name
    (r, notes.map .manifest)
  | _ => (.ok (unreadable name kind ""), [])

/-- Scans a candidate, unless it is left out, and adds to what has been found so far. A file counts
as soon as its kind is known, before it is opened. -/
def candidate (w : World) (s : ScanSettings) (base : List String) (sofar : ScanResult)
    (place : List String) : Except ScanFault ScanResult × List ScanEvent :=
  let path := Selection.pathOf place
  match s.selection.judge w place with
  | .rejected => (.ok sofar, [])
  | .tooLarge => (.ok sofar, [.tooLarge path.toString s.selection.maxKilobytes])
  | .accepted =>
    match (s.kind.filter fun k => !k.isEmpty) <|> kindOfName? path with
    | none => (.ok sofar, [.noKind path.toString])
    | some kind =>
      let counted := { sofar with filesScanned := sofar.filesScanned + 1 }
      let (r, events) := selected w s base place kind
      (r.map fun report => { counted with files := counted.files ++ [report] }, events)

/-- Scans candidates one after the other. -/
def candidates (w : World) (s : ScanSettings) (base : List String) (sofar : ScanResult) :
    List (List String) → Except ScanFault ScanResult × List ScanEvent
  | [] => (.ok sofar, [])
  | place :: rest =>
    match candidate w s base sofar place with
    | (.error f, events) => (.error f, events)
    | (.ok sofar, events) =>
      let (r, more) := candidates w s base sofar rest
      (r, events ++ more)

/-- The candidates below a root, and the folder that their names are counted from. -/
def candidatesOf (w : World) (s : Selection) (root : List String) : List (List String) × List String :=
  match w.tree.at? root with
  | some (.file _ _) => ([root], root.dropLast)
  | some t => (s.candidates w root t, root)
  | none => ([], root)

/-- Scans a file or a folder. -/
def files (w : World) (s : ScanSettings) (root : PathName) :
    Except ScanFault ScanResult × List ScanEvent :=
  match w.resolve root with
  | .error _ => (.error .linkLoop, [])
  | .ok place =>
    let (places, base) := candidatesOf w s.selection place
    candidates w s base ⟨[], 0⟩ places

end Scan

end Advisor
