import Advisor.Diagnosis
import Advisor.Manifest
import Advisor.Weakness

/-!
# Analysis of one text

Sends a text to the checks that apply to its kind: code to the weakness rules and the validation of
its syntax, manifests to the check of their dependencies. A text of another kind passes unseen.
-/

namespace Advisor

/-- What the checks say of a text. -/
structure Analysis where
  findings : List Finding
  validation : Option Validation
  deriving DecidableEq, Inhabited

namespace Analysis

/-- The weaknesses of content. What is no text has none. -/
def weaknesses (content : Option String) : List Finding :=
  match content with
  | some source => Weakness.findings Weakness.rules source
  | none => []

/-- The validation of content. What is no text has no syntax to break. -/
def validation? (parse : String → SyntaxTree) (content : Option String) (markup : Bool) :
    Validation :=
  match content with
  | some source => Diagnosis.validate parse source markup
  | none => .accepted

/-- Analyses content of a kind, with what the check of a manifest leaves in the log. -/
def run (parse : String → SyntaxTree) (nesting : Nat) (content : Option String) (kind : String)
    (scheme : VersionScheme) (validate markup : Bool) :
    Except ManifestFault Analysis × List ManifestNote :=
  if kind = "code" then
    (.ok ⟨weaknesses content, if validate then some (validation? parse content markup) else none⟩, [])
  else if Manifest.isManifestKind kind then
    let (r, notes) := Manifest.check content kind scheme nesting
    (r.map fun o => ⟨o.findings, none⟩, notes)
  else (.ok ⟨[], none⟩, [])

end Analysis

end Advisor
