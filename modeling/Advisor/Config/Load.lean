import Advisor.Config.Basic
import Advisor.Config.Toml
import Advisor.Files.Tree
import Advisor.Text.Utf8

/-!
# Loading a configuration

Finds the file of a configuration and reads it. Without a path the usual file is taken if it is
there, and the defaults if it is not.
-/

namespace Advisor

/-- Why there is no configuration. -/
inductive ConfigFault where
  /-- There is no file at the path. -/
  | missing (path : String)
  | isFolder
  /-- The file is there but cannot be opened. -/
  | locked (reason : String)
  | notUtf8
  | unreadable (e : Toml.ReadError)
  | misfit (m : Setting.Misfit)
  deriving DecidableEq

namespace Config

/-- The configuration that a text describes, with room for so much nesting. -/
def ofText (nesting : Nat) (text : String) : Except ConfigFault Config :=
  match Toml.read nesting text with
  | .error e => .error (.unreadable e)
  | .ok document => (ofDocument document).mapError .misfit

/-- The configuration that the bytes of a file describe. -/
def ofBytes (nesting : Nat) (bytes : ByteArray) : Except ConfigFault Config :=
  match Text.decodeStrict bytes.toList with
  | none => .error .notUtf8
  | some text => ofText nesting (String.ofList text)

/-- Loads the file that a path leads to. -/
def loadFile (w : World) (p : PathName) : Except ConfigFault Config :=
  match w.find? p with
  | some (_, .file _ (some reason)) => .error (.locked reason)
  | some (_, .file bytes none) => ofBytes w.machine.configNesting bytes
  | some _ => .error .isFolder
  | none => .error (.missing p.toString)

/-- Loads the configuration at a path, or the usual one. -/
def load (w : World) : Option String → Except ConfigFault Config
  | some path => loadFile w (.ofString path)
  | none =>
    let usual := PathName.ofString fileName
    if (w.find? usual).isSome then loadFile w usual else .ok default

end Config

end Advisor
