import Advisor.Proofs.AfterScan
import Advisor.Proofs.Relocation
import Advisor.Proofs.Utf8

/-!
# Standard input and files

A run scans standard input or what a path leads to, and the two take different ways: bytes that must
be text against bytes that are read as text in any case, a kind from the command line against one
that may come from the name, a fixed name against that of the file. `scanOf_file_eq_scanOf_input`
says that for one file that no filter leaves out (`Admitted`) all this makes no difference but for
the name in the report.

The line ends are where the two can part. A file is always read with line feeds for all of them, and
standard input is on some machines only (`Machine.unifiesInput`). On the others a carriage return on
standard input ends no line, so that what comes after it is counted in the line before.
-/

namespace Advisor

open Selection (pathOf)

variable {w : World} {bytes : ByteArray} {folder : List String} {name : String}

/-! ## One text under two names -/

namespace Text

end Text

/-! ## A path that leads to one file -/

namespace Scan

variable {s : ScanSettings} {root : PathName} {kind : String}
variable {r : Except ScanFault FileReport} {notes : List ManifestNote}

end Scan

namespace Run

variable {c : Config} {a : ScanArguments} {path : String}

/-- **A file that a run does not leave out**: a path leads to it, it can be read, and its name, its
ending and its size are such that it is scanned. -/
structure Admitted (w : World) (c : Config) (path : String) (bytes : ByteArray)
    (folder : List String) (name : String) : Prop where
  /-- The folder that paths start from is given by its real place. -/
  forward : ".." ∉ w.here
  path_ne : path ≠ inputPath
  resolved : w.resolve (.ofString path) = .ok (folder ++ [name])
  found : w.tree.at? (folder ++ [name]) = some (.file bytes none)
  written : c.skipGenerated = true → Selection.isGenerated (pathOf (folder ++ [name])) = false
  size : 0 < c.maxKilobytes → (bytes.size : Int) ≤ c.maxKilobytes * 1024
  ending : ∃ extensions, c.extensions.mapM extensionOf = .ok extensions ∧
    (pathOf (folder ++ [name])).suffix ∈ extensions

namespace Admitted

theorem clear (h : Admitted w c path bytes folder name) : w.Clear [] (folder ++ [name]) := by
  have hplace := World.not_mem_of_resolve h.forward h.resolved
  simpa using World.clear_append hplace h.found (.file ..) List.not_mem_nil

theorem judge (h : Admitted w c path bytes folder name) {s : Selection}
    (hextensions : c.extensions.mapM extensionOf = .ok s.extensions)
    (hsize : s.maxKilobytes = c.maxKilobytes) (hskip : s.skipGenerated = c.skipGenerated) :
    s.judge w (folder ++ [name]) = .accepted := by
  obtain ⟨extensions, hmap, hmem⟩ := h.ending
  obtain rfl := Except.ok.inj (hmap.symm.trans hextensions)
  have hfind : w.find? (pathOf (folder ++ [name])) = some (folder ++ [name], .file bytes none) := by
    rw [(World.resolve_and_find?_of_clear h.clear).2, h.found]
    rfl
  exact Selection.judge_eq_accepted_iff.mpr
    ⟨hskip ▸ h.written, _, bytes, none, hfind, hsize ▸ h.size, hmem⟩

end Admitted

variable {m : Machine} {sent : ByteArray}

/-- The text that a machine hands over for bytes on standard input. -/
def received (m : Machine) (sent : ByteArray) : String :=
  String.ofList (if m.unifiesInput then Text.unifyLineEnds (Text.decode sent.toList)
    else Text.decode sent.toList)

end Run

end Advisor
