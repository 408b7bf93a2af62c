import Advisor.Proofs.Alike
import Advisor.Proofs.BreakingOff
import Advisor.Proofs.Utf8

/-!
# Files that cannot be read

Which files a scan opens is settled before any of them is read, so failures to read cannot change it
(`targets_unlocked`). Each failure is taken down in the report of its own file. `files_of_failures`
sets a scan with any failures beside the scan of the same tree without one, `World.unlocked`: the
reports are the same in number and order, and differ only where a file could not be read. What does
break a scan off is a manifest that can be read, `broken_off_beside_failure`.
-/

namespace Advisor

/-! ## The tree without failures -/

namespace FileTree

mutual

/-- The same tree with all its files open to be read. -/
def unlocked : FileTree → FileTree
  | file bytes _ => file bytes none
  | folder entries => folder (unlockedIn entries)
  | link target => link target

/-- The same entries with all their files open to be read. -/
def unlockedIn : List (String × FileTree) → List (String × FileTree)
  | [] => []
  | (n, t) :: rest => (n, unlocked t) :: unlockedIn rest

end

theorem unlockedIn_eq (entries : List (String × FileTree)) :
    unlockedIn entries = entries.map fun e => (e.1, e.2.unlocked) := by
  induction entries with
  | nil => rfl
  | cons e rest ih => rw [unlockedIn, ih, List.map_cons]

theorem lookup_unlockedIn (entries : List (String × FileTree)) (n : String) :
    (unlockedIn entries).lookup n = (entries.lookup n).map unlocked := by
  induction entries with
  | nil => rfl
  | cons e rest ih =>
    rw [unlockedIn, List.lookup_cons, List.lookup_cons, ih]
    cases n == e.1 <;> rfl

/-- At every place stands what stood there, open to be read. -/
theorem at?_unlocked (t : FileTree) (p : List String) :
    t.unlocked.at? p = (t.at? p).map unlocked := by
  induction p generalizing t with
  | nil => rfl
  | cons n rest ih =>
    have hentry : t.unlocked.at? [n] = (t.at? [n]).map unlocked := by
      cases t with
      | file bytes fault => rfl
      | link target => rfl
      | folder entries => rw [unlocked, at?_folder, at?_folder, lookup_unlockedIn]
    rw [at?_cons, at?_cons t, hentry]
    cases t.at? [n] with
    | none => rfl
    | some child => exact ih child

theorem isFolder_unlocked (t : FileTree) : t.unlocked.isFolder = t.isFolder := by
  cases t <;> rfl

/-- Nobody sees a difference who does not read. -/
theorem alike_unlocked (t : FileTree) : t.Alike (fun u u' => u' = u.unlocked) t.unlocked := by
  cases t with
  | file bytes fault => exact .file rfl
  | folder entries => exact .folder _ _
  | link target => exact .link target

end FileTree

namespace World

open Selection

variable {w : World}

/-- The same world with all its files open to be read. -/
def unlocked (w : World) : World := { w with tree := w.tree.unlocked }

theorem alike_unlocked (w : World) : Alike (fun u u' => u' = u.unlocked) w w.unlocked where
  here := rfl
  at? p := by
    rw [unlocked, FileTree.at?_unlocked]
    cases w.tree.at? p with
    | none => exact .none
    | some t => exact .some t.alike_unlocked

theorem find?_unlocked {p : PathName} {real : List String} {bytes : ByteArray}
    {fault : Option String} (h : w.find? p = some (real, .file bytes fault)) :
    w.unlocked.find? p = some (real, .file bytes none) := by
  have hrel := w.alike_unlocked.find? p
  rw [h, rel_some_iff] at hrel
  obtain ⟨⟨real', t'⟩, hfind, hreal, hlike⟩ := hrel
  cases hlike with
  | file hopen =>
    cases hopen
    obtain rfl : real = real' := hreal
    exact hfind

end World

/-! ## What is opened -/

namespace Selection

variable {w : World} {s : Selection}

theorem filesOf_unlocked (place : List String) (entries : List (String × FileTree)) :
    filesOf w.unlocked s place (FileTree.unlockedIn entries) = filesOf w s place entries := by
  have hsame : ∀ e : String × FileTree, countsAsFolder w.unlocked place e.1 e.2.unlocked =
      countsAsFolder w place e.1 e.2 :=
    fun e => (w.alike_unlocked.countsAsFolder e.2.alike_unlocked).symm
  rw [filesOf, filesOf, FileTree.unlockedIn_eq, byName_map]
  refine congrArg (List.filter _) ?_
  rw [List.filter_map, List.map_map]
  simp only [Function.comp_def, hsame]

theorem enters_unlocked (place : List String) (e : String × FileTree) :
    s.enters place (e.1, e.2.unlocked) = s.enters place e := by
  rw [enters, enters, FileTree.isFolder_unlocked]

/-- **The walk does not read.** -/
theorem candidates_unlocked (place : List String) (t : FileTree) :
    s.candidates w.unlocked place t.unlocked = s.candidates w place t := by
  induction t generalizing place with
  | file bytes fault => simp only [FileTree.unlocked, candidates]
  | link target => simp only [FileTree.unlocked, candidates]
  | folder entries ih =>
    rw [FileTree.unlocked, candidates_folder, candidates_folder, filesOf_unlocked,
      FileTree.unlockedIn_eq, byName_map, List.filter_map, List.flatMap_map]
    simp only [Function.comp_def, enters_unlocked]
    refine congrArg _ (List.flatMap_congr fun e he => ?_)
    exact ih e (mem_byName_iff.mp (List.mem_of_mem_filter he)) _

end Selection

namespace Scan

open Selection

variable {w : World} {s : ScanSettings} {root : PathName} {place : List String}

theorem candidatesOf_unlocked (w : World) (s : Selection) (place : List String) :
    candidatesOf w.unlocked s place = candidatesOf w s place := by
  rw [candidatesOf, candidatesOf, World.unlocked, FileTree.at?_unlocked]
  cases w.tree.at? place with
  | none => rfl
  | some t =>
    have hwalk := candidates_unlocked (w := w) (s := s) place t
    cases t with
    | file bytes fault => rfl
    | folder entries => exact congrArg (·, place) hwalk
    | link target => exact congrArg (·, place) hwalk

theorem target?_unlocked (p : List String) : target? w.unlocked s p = target? w s p := by
  have hjudge : s.selection.judge w p = s.selection.judge w.unlocked p := by
    refine w.alike_unlocked.judge ?_ s.selection p
    intro bytes fault bytes' fault' hopen
    cases hopen
    rfl
  rw [target?, target?, hjudge]

/-- **The same files are opened**, whether or not they can be read. -/
theorem targets_unlocked (w : World) (s : ScanSettings) (place : List String) :
    targets w.unlocked s place = targets w s place := by
  rw [targets, targets, candidatesOf_unlocked]
  exact List.filterMap_congr fun p _ => target?_unlocked p

/-! ## What is said of the files -/

/-- What is said of a file that can be read does not depend on the others. -/
theorem selected_unlocked {c : List String × String} (hc : target? w s place = some c)
    (hread : ¬ Unreadable w c.1) (base : List String) :
    (selected w.unlocked s base c.1 c.2).1 = (selected w s base c.1 c.2).1 := by
  rcases selected_cases hc base with ⟨real, bytes, reason, hfind, -⟩ | ⟨real, bytes, hfind, -⟩
  · exact absurd ⟨real, bytes, reason, hfind⟩ hread
  · rw [selected, selected, hfind, World.find?_unlocked hfind, w.alike_unlocked.reportedPath]

end Scan

section Traversal

variable {α β : Type} {R : α → β → Prop} {l : List α} {r : List β}

theorem rel_of_forall₂ (h : List.Forall₂ R l r) {i : Nat} {a : α} {b : β} (ha : l[i]? = some a)
    (hb : r[i]? = some b) : R a b := by
  obtain ⟨hi, rfl⟩ := List.getElem?_eq_some_iff.mp ha
  obtain ⟨hi', rfl⟩ := List.getElem?_eq_some_iff.mp hb
  exact h.get hi hi'

end Traversal

namespace Scan

open Selection

variable {w : World} {s : ScanSettings} {root : PathName} {place : List String}

/-- A scan without failures that comes to a result does so with any failures. -/
theorem exists_files_eq_ok_of_unlocked {r : ScanResult} (h : (files w.unlocked s root).1 = .ok r) :
    ∃ r', (files w s root).1 = .ok r' := by
  obtain ⟨place, hplace, -⟩ := files_eq_ok_iff.mp h
  have hroot : w.resolve root = .ok place := by rw [w.alike_unlocked.resolve, hplace]
  have hchecks := (exists_files_eq_ok_iff hplace).mp ⟨r, h⟩
  rw [targets_unlocked] at hchecks
  refine (exists_files_eq_ok_iff hroot).mpr fun c hc real bytes fault hfind => ?_
  exact hchecks c hc real bytes fault (World.find?_unlocked hfind)

/-- **A failure to read stays with its file.** Take any tree, with failures at any of its files, and
the same tree without a failure. The same files are opened in both, in the same order. If the scan
without failures comes to a result, so does the scan with them: it has as many reports, each under
the same path and of the same kind as before; the report of a file that can be read is the same; and
the report of a file that cannot has no validation and one finding, of a middle severity and at no
place, whatever the filter of the rules. Failures never break a scan off: with them or without, it
comes to a result exactly if no manifest that it can read breaks it off. A result counts its
reports. -/
theorem files_of_failures (w : World) (s : ScanSettings) (root : PathName) :
    w.unlocked.resolve root = w.resolve root ∧
    (∀ place, targets w.unlocked s place = targets w s place) ∧
    (∀ place, w.resolve root = .ok place →
      ((∃ r', (files w s root).1 = .ok r') ↔
        ∀ c ∈ targets w s place, ∀ real bytes fault,
          w.find? (pathOf c.1) = some (real, .file bytes none) →
          ¬ Manifest.BreaksOff (contentOf bytes) c.2 s.text.scheme s.text.nesting fault)) ∧
    (∀ r', (files w s root).1 = .ok r' → r'.filesScanned = r'.files.length) ∧
    ∀ r, (files w.unlocked s root).1 = .ok r →
      ∃ place r', w.resolve root = .ok place ∧ (files w s root).1 = .ok r' ∧
        r'.filesScanned = r.filesScanned ∧ (targets w s place).length = r.files.length ∧
        r'.files.length = r.files.length ∧
        ∀ (i : Nat) c x x', (targets w s place)[i]? = some c → r.files[i]? = some x →
          r'.files[i]? = some x' →
          x'.path = x.path ∧ x'.kind = x.kind ∧ (¬ Unreadable w c.1 → x' = x) ∧
          ∀ real bytes reason, w.find? (pathOf c.1) = some (real, .file bytes (some reason)) →
            x'.validation = none ∧
            x'.findings = [{
              title := "File scan error", severity := "Medium"
              description := "Unable to read file during scan: " ++ reason
              place := ⟨0, 0⟩, rule := "SG900" }] := by
  refine ⟨(w.alike_unlocked.resolve root).symm, targets_unlocked w s,
    fun place hroot => exists_files_eq_ok_iff hroot, ?_, ?_⟩
  · intro r' hr'
    obtain ⟨-, -, -, hscanned⟩ := files_eq_ok_iff.mp hr'
    exact hscanned
  intro r hr
  obtain ⟨r', hr'⟩ := exists_files_eq_ok_of_unlocked hr
  obtain ⟨place, hplace, hreports, hscanned⟩ := files_eq_ok_iff.mp hr
  obtain ⟨place', hplace', hreports', hscanned'⟩ := files_eq_ok_iff.mp hr'
  rw [← w.alike_unlocked.resolve, hplace'] at hplace
  obtain rfl := Except.ok.inj hplace
  rw [targets_unlocked, candidatesOf_unlocked] at hreports
  have hlength : r'.files.length = r.files.length :=
    hreports'.length_eq.symm.trans hreports.length_eq
  refine ⟨place', r', hplace', hr', ?_, hreports.length_eq, hlength, ?_⟩
  · rw [hscanned, hscanned', hlength]
  intro i c x x' hc hx hx'
  have hsel := rel_of_forall₂ hreports hc hx
  have hsel' := rel_of_forall₂ hreports' hc hx'
  obtain ⟨p, -, ht⟩ := exists_target?_of_mem_targets (List.mem_of_getElem? hc)
  obtain ⟨hpath, hkind⟩ := path_and_kind_of_selected (target?_unlocked p ▸ ht) hsel
  obtain ⟨hpath', hkind'⟩ := path_and_kind_of_selected ht hsel'
  refine ⟨?_, hkind'.trans hkind.symm, ?_, ?_⟩
  · rw [hpath, hpath', w.alike_unlocked.reportedPath]
  · intro hread
    rw [selected_unlocked ht hread, hsel'] at hsel
    exact Except.ok.inj hsel
  · intro real bytes reason hfind
    rw [selected_of_unreadable hfind] at hsel'
    obtain rfl := Except.ok.inj hsel'
    exact ⟨rfl, rfl⟩

/-- A file that cannot be read, and beside it a manifest that can. -/
def besideManifest (content : String) : World :=
  ⟨.folder [("a.js", .file ByteArray.empty (some "denied")),
    ("b.json", .file content.toUTF8 none)], [], .usual⟩

theorem resolve_besideManifest (content : String) :
    (besideManifest content).resolve ⟨"", []⟩ = .ok [] := by
  cbv

theorem find?_besideManifest (content : String) :
    (besideManifest content).find? (pathOf ["a.js"]) =
        some (["a.js"], .file ByteArray.empty (some "denied")) ∧
      (besideManifest content).find? (pathOf ["b.json"]) =
        some (["b.json"], .file content.toUTF8 none) := by
  constructor <;> cbv

theorem targets_besideManifest (content : String) :
    targets (besideManifest content) (ofAnySize .everything) [] =
      [(["a.js"], "code"), (["b.json"], "json")] := by
  obtain ⟨hcode, hmanifest⟩ := find?_besideManifest content
  have hwalk : candidatesOf (besideManifest content) (ofAnySize .everything).selection [] =
      ([["a.js"], ["b.json"]], []) := by cbv
  have htargetCode :
      target? (besideManifest content) (ofAnySize .everything) ["a.js"] = some (["a.js"], "code") :=
    target?_ofAnySize hcode (by decide) (by decide) (by decide)
  have htargetManifest : target? (besideManifest content) (ofAnySize .everything) ["b.json"] =
      some (["b.json"], "json") :=
    target?_ofAnySize hmanifest (by decide) (by decide) (by decide)
  simp only [targets, hwalk, List.filterMap_cons, htargetCode, htargetManifest, List.filterMap_nil]

/-- **A manifest breaks a scan off beside a file that cannot be read**: it can be read itself, and
is nested too deep. -/
theorem broken_off_beside_failure :
    targets (besideManifest (brackets 50000)) (ofAnySize .everything) [] =
        [(["a.js"], "code"), (["b.json"], "json")] ∧
      Unreadable (besideManifest (brackets 50000)) ["a.js"] ∧
      ¬ ∃ r,
        (files (besideManifest (brackets 50000)) (ofAnySize .everything) ⟨"", []⟩).1 = .ok r := by
  refine ⟨targets_besideManifest _, ⟨_, _, _, (find?_besideManifest _).1⟩, ?_⟩
  refine not_exists_files_of_brackets (by decide) (resolve_besideManifest _) ?_
    (by decide : Manifest.isManifestKind "json" = true) (find?_besideManifest _).2
  rw [targets_besideManifest]
  exact List.mem_cons_of_mem _ List.mem_cons_self

end Scan

end Advisor
