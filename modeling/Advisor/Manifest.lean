import Advisor.Finding
import Advisor.Json.Reader
import Advisor.Version

/-!
# Manifests

Looks up the dependencies that a manifest declares among the packages with known vulnerabilities.
What is no manifest is not an error: the check then does not apply, for a stated reason.
-/

namespace Advisor

/-- A package with a known vulnerability. -/
structure Advisory where
  package : String
  fixedIn : String
  severity : String
  message : String

/-- What a check leaves in the log. -/
inductive ManifestNote where
  | notAnObject
  /-- A declared version that the semantic order cannot place. -/
  | incomparable (version : String)
  deriving DecidableEq

/-- How a check ends that does not break off. -/
inductive ManifestOutcome where
  | applicable (findings : List Finding)
  | wrongKind
  | notAnObject
  deriving DecidableEq

/-- Why a check breaks off. -/
inductive ManifestFault where
  | nestedTooDeep
  | numberTooLong
  deriving DecidableEq

namespace Manifest

/-- The packages with known vulnerabilities. -/
def advisories : List Advisory := [
  { package := "express", fixedIn := "4.17.1", severity := "High"
    message := "Versions of Express < 4.17.1 are vulnerable to open redirect." },
  { package := "lodash", fixedIn := "4.17.21", severity := "Medium"
    message := "Lodash < 4.17.21 is vulnerable to Command Injection via template." },
  { package := "axios", fixedIn := "0.21.1", severity := "Medium"
    message := "Axios < 0.21.1 has SSRF vulnerabilities." },
  { package := "jsonwebtoken", fixedIn := "8.5.1", severity := "High"
    message := "Old versions of jsonwebtoken have verification bypass issues." }]

/-- The members of an object under a name, or none if there is no object. -/
def section? (manifest : List (String × Json)) (name : String) : List (String × Json) :=
  ((manifest.lookup name).bind Json.members?).getD []

/-- The packages a manifest declares, with their versions. Development dependencies win over others
of the same name, at the place of those. -/
def declared (manifest : List (String × Json)) : List (String × String) :=
  let merged := (section? manifest "devDependencies").foldl (fun ms m => Json.put ms m.1 m.2)
    (section? manifest "dependencies")
  merged.filterMap fun (package, version) =>
    match version with
    | .str s => some (package, s)
    | _ => none

/-- A version without the signs that make it a range. -/
def bareVersion (version : String) : String :=
  String.ofList (version.toList.filter fun c => c != '^' && c != '~')

/-- What is said of a package in a vulnerable version. -/
def report (a : Advisory) (version : String) : Finding :=
  { title := "Insecure Dependency"
    severity := a.severity
    description := "Vulnerable version of " ++ a.package ++ " detected (" ++ version ++ "). " ++ a.message
    place := .unknown
    rule := "SG201" }

/-- Checks declared packages one after the other. -/
def checkDeclared (scheme : VersionScheme) :
    List (String × String) → Except ManifestFault (List Finding) × List ManifestNote
  | [] => (.ok [], [])
  | (package, version) :: rest =>
    match advisories.find? (·.package == package) with
    | none => checkDeclared scheme rest
    | some a =>
      let bare := bareVersion version
      match Version.compareTexts bare a.fixedIn scheme with
      | .below =>
        let (r, notes) := checkDeclared scheme rest
        (r.map (report a version :: ·), notes)
      | .notBelow => checkDeclared scheme rest
      | .incomparable =>
        let (r, notes) := checkDeclared scheme rest
        (r, .incomparable bare :: notes)
      | .numberTooLong => (.error .numberTooLong, [])

/-- Whether content of a kind is checked at all. -/
def isManifestKind (kind : String) : Bool := kind == "config" || kind == "json"

/-- Checks content of a kind, with room for so much nesting. Content that is no text is no manifest
either. -/
def check (content : Option String) (kind : String) (scheme : VersionScheme) (nesting : Nat) :
    Except ManifestFault ManifestOutcome × List ManifestNote :=
  if isManifestKind kind then
    match content.map (Json.read nesting) with
    | some (.ok (.object members)) =>
      let (r, notes) := checkDeclared scheme (declared members)
      (r.map .applicable, notes)
    | some (.error .nestedTooDeep) => (.error .nestedTooDeep, [])
    | _ => (.ok .notAnObject, [.notAnObject])
  else (.ok .wrongKind, [])

end Manifest

/-- The findings of a check; there are none where it does not apply. -/
def ManifestOutcome.findings : ManifestOutcome → List Finding
  | applicable fs => fs
  | _ => []

/-- Why a check does not apply, given the kind of content as it is shown. -/
def ManifestOutcome.reason? (shownKind : String) : ManifestOutcome → Option String
  | applicable _ => none
  | wrongKind => some ("input type " ++ shownKind ++ " is not a manifest type")
  | notAnObject => some "content is not a JSON object"

end Advisor
