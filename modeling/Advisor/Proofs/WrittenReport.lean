import Advisor.CommandLine.Run
import Advisor.Proofs.ConfigCheck
import Advisor.Proofs.Json.RoundTrip
import Advisor.Proofs.Utf8

/-!
# Reports that are read again

A report goes out as text, and the text says all that the result says: read as JSON it is the
document that was to be written, in either format, and in the plain format the document in turn
determines the result (`plain_injective`). What may go wrong on the way are numbers that are too
long to be read; `ScanResult.Writable` keeps them short.
-/

namespace Advisor

open Json

/-! ## Numbers that are short enough -/

namespace Json

/-- An integer of fewer digits than the longest that is read. -/
def Short (i : Int) : Prop := (digitsOf i).length < Text.maxDigits

instance (i : Int) : Decidable (Short i) := inferInstanceAs (Decidable (_ < _))

theorem length_digitsOf_le_iff {i : Int} {k : Nat} (hk : 0 < k) :
    (digitsOf i).length ≤ k ↔ i.natAbs < 10 ^ k :=
  Nat.length_toDigits_le_iff (by decide) hk

theorem short_iff {i : Int} : Short i ↔ i.natAbs < 10 ^ (Text.maxDigits - 1) := by
  rw [← length_digitsOf_le_iff (by decide), Short]
  exact Nat.lt_iff_le_pred (by decide)

theorem Short.of_natAbs_le {i j : Int} (h : Short i) (hji : j.natAbs ≤ i.natAbs) : Short j :=
  short_iff.mpr (Nat.lt_of_le_of_lt hji (short_iff.mp h))

theorem Short.readable {i : Int} (h : Short i) (n : Nat) : Readable n (.int i) :=
  .int n (Nat.le_of_lt h)

/-- A column that is counted from 1 may have one digit more. -/
theorem Short.readable_succ {i : Int} (h : Short i) (n : Nat) : Readable n (.int (i + 1)) := by
  -- the bound stays a name: its power of ten must not be worked out
  obtain ⟨k, hk⟩ : ∃ k, Text.maxDigits = k + 1 := ⟨_, rfl⟩
  have hlt := short_iff.mp h
  have hsucc : (i + 1).natAbs ≤ i.natAbs + 1 := by omega
  refine .int n ((length_digitsOf_le_iff (by decide)).mpr ?_)
  rw [hk, Nat.add_sub_cancel] at hlt
  rw [hk, Nat.pow_succ]
  omega

end Json

/-! ## Results whose numbers are short -/

/-- A place whose numbers are short. -/
def Place.Short (p : Place) : Prop := Json.Short p.line ∧ Json.Short p.column

instance (p : Place) : Decidable p.Short := inferInstanceAs (Decidable (_ ∧ _))

/-- **A result whose numbers are short**: its own, and the two counts that a report adds. Strings
may be any. -/
structure ScanResult.Writable (r : ScanResult) : Prop where
  filesScanned : Json.Short r.filesScanned
  findings : ∀ f ∈ r.findings, f.2.place.Short
  syntaxErrors : ∀ d ∈ r.syntaxErrors, d.2.place.Short
  findingCount : Json.Short r.findings.length
  errorCount : Json.Short r.syntaxErrors.length

theorem ScanResult.writable_iff {r : ScanResult} :
    r.Writable ↔ Json.Short r.filesScanned ∧ (∀ f ∈ r.findings, f.2.place.Short) ∧
      (∀ d ∈ r.syntaxErrors, d.2.place.Short) ∧ Json.Short r.findings.length ∧
      Json.Short r.syntaxErrors.length :=
  ⟨fun h => ⟨h.1, h.2, h.3, h.4, h.5⟩, fun ⟨h₁, h₂, h₃, h₄, h₅⟩ => ⟨h₁, h₂, h₃, h₄, h₅⟩⟩

instance (r : ScanResult) : Decidable r.Writable := decidable_of_iff' _ ScanResult.writable_iff

namespace Report

variable {r : ScanResult}

theorem readable_list_map {α : Type} {toJson : α → Json} {items : List α} {n : Nat}
    (h : ∀ x ∈ items, Readable n (toJson x)) : Readable (n + 1) (.list (items.map toJson)) :=
  .list (List.forall_mem_map.mpr h)

theorem readable_placeJson {p : Place} (h : p.Short) (n : Nat) : Readable (n + 1) (placeJson p) :=
  .ofMembers (by simp) ⟨h.1.readable n, h.2.readable n⟩

theorem readable_findingJson {f : Finding} (h : f.place.Short) (n : Nat) :
    Readable (n + 2) (findingJson f) :=
  .ofMembers (by simp) ⟨.str .., .str .., .str .., readable_placeJson h n, .str ..⟩

theorem readable_diagnosticJson {d : Diagnostic} (h : d.place.Short) (n : Nat) :
    Readable (n + 1) (diagnosticJson d) :=
  .ofMembers (by simp) ⟨h.1.readable n, h.2.readable n, .str .., .str .., .str ..⟩

theorem readable_validationJson {v : Validation} (h : ∀ d ∈ v.errors, d.place.Short) (n : Nat) :
    Readable (n + 3) (validationJson v) := by
  have herrors := readable_list_map fun d hd => readable_diagnosticJson (h d hd) n
  exact .ofMembers (by simp) ⟨.bool .., herrors⟩

theorem readable_fileJson {f : FileReport} (hfindings : ∀ x ∈ f.findings, x.place.Short)
    (herrors : ∀ v, f.validation = some v → ∀ d ∈ v.errors, d.place.Short) (n : Nat) :
    Readable (n + 4) (fileJson f) := by
  have hlist : Readable (n + 3) (.list (f.findings.map findingJson)) :=
    readable_list_map fun x hx => readable_findingJson (hfindings x hx) n
  unfold fileJson
  cases hv : f.validation with
  | none => exact .ofMembers (by simp) ⟨.str .., .str .., hlist⟩
  | some v =>
    have hvalidation := readable_validationJson (herrors v hv) n
    exact .ofMembers (by simp) ⟨.str .., .str .., hlist, hvalidation⟩

theorem readable_count {k n : Nat} {i : Int} (hi : Json.Short i) (h : k ≤ i.natAbs) :
    Readable n (.int k) :=
  (hi.of_natAbs_le (j := k) (by omega)).readable n

/-- Titles come in strictly ascending order. -/
theorem pairwise_titles (findings : List Finding) :
    ((titleCounts findings).map Prod.fst).Pairwise (· < ·) := by
  rw [titleCounts, List.map_map]
  exact (List.map_id _).symm ▸ Text.pairwise_distinct _

theorem count_le_of_mem_titleCounts {findings : List Finding} {x : String × Nat}
    (h : x ∈ titleCounts findings) : x.2 ≤ findings.length := by
  obtain ⟨t, -, rfl⟩ := List.mem_map.mp h
  simpa using List.count_le_length (a := t) (l := findings.map (·.title))

theorem length_distinct_le (names : List String) : (Text.distinct names).length ≤ names.length := by
  have hsubset : Text.distinct names ⊆ names := fun _ => Text.mem_distinct_iff.mp
  exact ((Text.pairwise_distinct names).nodup.subperm hsubset).length_le

theorem readable_file_of_mem (h : r.Writable) {f : FileReport} (hf : f ∈ r.files) (n : Nat) :
    Readable (n + 4) (fileJson f) := by
  refine readable_fileJson (fun x hx => ?_) (fun v hv d hd => ?_) n
  · exact h.findings (f.path, x) (List.mem_flatMap.mpr ⟨f, hf, List.mem_map.mpr ⟨x, hx, rfl⟩⟩)
  · refine h.syntaxErrors (f.path, d) (List.mem_flatMap.mpr ⟨f, hf, ?_⟩)
    rw [hv]
    exact List.mem_map.mpr ⟨d, hd, rfl⟩

theorem readable_plain (h : r.Writable) (n : Nat) : Readable (n + 6) (plain r) := by
  have hlength : (r.findings.map (·.2)).length = r.findings.length := List.length_map ..
  have hcount {k m : Nat} (hk : k ≤ r.findings.length) : Readable m (.int k) :=
    readable_count h.findingCount (by omega)
  have hseverities : Readable (n + 5)
      (.object (Severity.all.map fun s => (s.name, .int (s.count (r.findings.map (·.2)))))) := by
    refine .object ?_ (List.forall_mem_map.mpr fun s _ => hcount ?_)
    · rw [List.map_map]
      exact (by decide : (Severity.all.map Severity.name).Nodup)
    · exact hlength ▸ List.countP_le_length
  have htitles : Readable (n + 5)
      (.object ((titleCounts (r.findings.map (·.2))).map fun x => (x.1, .int x.2))) := by
    refine .object ?_ (List.forall_mem_map.mpr fun x hx => hcount ?_)
    · rw [List.map_map]
      exact (pairwise_titles (r.findings.map (·.2))).nodup
    · exact hlength ▸ count_le_of_mem_titleCounts hx
  have hdistinct : (Text.distinct (r.findings.map (·.1))).length ≤ r.findings.length := by
    simpa using length_distinct_le (r.findings.map (·.1))
  have hfiles := readable_list_map fun f hf => readable_file_of_mem h hf n
  exact .ofMembers (by simp) ⟨h.filesScanned.readable _, hcount hdistinct, hcount hlength.le,
    h.errorCount.readable _, hseverities, htitles, hfiles⟩

theorem readable_member (name s : String) (n : Nat) :
    Readable (n + 1) (.object [(name, .str s)]) :=
  .ofMembers (by simp) (.str n s)

theorem readable_locationJson {p : Place} (h : p.Short) (path : String) (n : Nat) :
    Readable (n + 3) (locationJson path p) := by
  have hregion : Readable (n + 1)
      (.object [("startLine", .int p.line), ("startColumn", .int (p.column + 1))]) :=
    .ofMembers (by simp) ⟨h.1.readable n, h.2.readable_succ n⟩
  unfold locationJson
  dsimp only
  split
  · exact .ofMembers (by simp) (.ofMembers (by simp) ⟨readable_member _ path n, hregion⟩)
  · exact .ofMembers (by simp) (.ofMembers (by simp) (readable_member _ path n))

theorem readable_resultJson {p : Place} (h : p.Short) (rule level text path : String) (n : Nat) :
    Readable (n + 5) (resultJson rule level text path p) := by
  have hlocations : Readable (n + 4) (.list [locationJson path p]) :=
    .list (List.forall_mem_singleton.mpr (readable_locationJson h path n))
  exact .ofMembers (by simp) ⟨.str .., .str .., readable_member _ text _, hlocations⟩

/-- What the exchange format lists: the findings, then the syntax errors. -/
def results (r : ScanResult) : List Json :=
  r.findings.map (fun x => resultJson x.2.rule (level x.2.severity)
      (x.2.title ++ ": " ++ x.2.description) x.1 x.2.place)
    ++ r.syntaxErrors.map fun x => resultJson syntaxRule "error"
      (x.2.message ++ ". " ++ x.2.suggestion) x.1 x.2.place

/-- What stands around the list. -/
def envelope (results : List Json) : Json :=
  .object [
    ("$schema", .str "https://json.schemastore.org/sarif-2.1.0.json"),
    ("version", .str "2.1.0"),
    ("runs", .list [.object [
      ("tool", .object [("driver",
        .object [("name", .str programName), ("version", .str programVersion)])]),
      ("results", .list results)]])]

theorem sarif_eq (r : ScanResult) : sarif r = envelope (results r) := rfl

theorem readable_of_mem_results (h : r.Writable) (n : Nat) :
    ∀ v ∈ results r, Readable (n + 5) v := by
  refine List.forall_mem_append.mpr ⟨?_, ?_⟩
  · exact List.forall_mem_map.mpr fun x hx => readable_resultJson (h.findings x hx) _ _ _ _ n
  · exact List.forall_mem_map.mpr fun x hx => readable_resultJson (h.syntaxErrors x hx) _ _ _ _ n

theorem readable_envelope {results : List Json} {n : Nat} (h : ∀ v ∈ results, Readable (n + 2) v) :
    Readable (n + 6) (envelope results) := by
  have htool : Readable (n + 3) (.object [("driver",
      .object [("name", .str programName), ("version", .str programVersion)])]) :=
    .ofMembers (by simp) (.ofMembers (by simp) ⟨.str .., .str ..⟩)
  refine .ofMembers (by simp) ⟨.str .., .str .., .list (List.forall_mem_singleton.mpr ?_)⟩
  exact .ofMembers (by simp) ⟨htool, .list h⟩

/-- A report in either format survives being printed. -/
theorem readable_payload (h : r.Writable) (f : Format) : Readable 9 (payload f r) := by
  cases f with
  | plain => exact readable_plain h 3
  | sarif => exact readable_envelope (n := 3) (readable_of_mem_results h 0)

/-! ## The plain format leaves nothing out -/

theorem placeJson_injective : Function.Injective placeJson := by
  rintro ⟨l, c⟩ ⟨l', c'⟩ h
  simp_all [placeJson]

theorem findingJson_injective : Function.Injective findingJson := by
  rintro ⟨t, s, d, p, i⟩ ⟨t', s', d', p', i'⟩ h
  simp only [findingJson, Json.object.injEq, List.cons.injEq, Prod.mk.injEq, Json.str.injEq,
    true_and, and_true] at h
  obtain ⟨ht, hs, hd, hp, hi⟩ := h
  rw [ht, hs, hd, placeJson_injective hp, hi]

theorem diagnosticJson_injective : Function.Injective diagnosticJson := by
  rintro ⟨⟨l, c⟩, m, s, t⟩ ⟨⟨l', c'⟩, m', s', t'⟩ h
  simp_all [diagnosticJson]

theorem validationJson_injective : Function.Injective validationJson := by
  rintro ⟨v, es⟩ ⟨v', es'⟩ h
  simp only [validationJson, Json.object.injEq, List.cons.injEq, Prod.mk.injEq, Json.bool.injEq,
    Json.list.injEq, true_and, and_true] at h
  obtain ⟨hv, hes⟩ := h
  rw [hv, List.map_injective_iff.mpr diagnosticJson_injective hes]

/-- Also that the syntax was not looked at can be told. -/
theorem fileJson_injective : Function.Injective fileJson := by
  rintro ⟨p, k, fs, v⟩ ⟨p', k', fs', v'⟩ h
  have hfindings := List.map_injective_iff.mpr findingJson_injective
  cases v with
  | none =>
    cases v' with
    | none =>
      simp only [fileJson, Json.object.injEq, List.append_nil, List.cons.injEq, Prod.mk.injEq,
        Json.str.injEq, Json.list.injEq, true_and, and_true] at h
      obtain ⟨hp, hk, hfs⟩ := h
      rw [hp, hk, hfindings hfs]
    | some v' => simp [fileJson] at h
  | some v =>
    cases v' with
    | none => simp [fileJson] at h
    | some v' =>
      simp only [fileJson, Json.object.injEq, List.cons_append, List.nil_append, List.cons.injEq,
        Prod.mk.injEq, Json.str.injEq, Json.list.injEq, true_and, and_true] at h
      obtain ⟨hp, hk, hfs, hv⟩ := h
      rw [hp, hk, hfindings hfs, validationJson_injective hv]

/-- **The plain format leaves nothing out**: the document determines the result. -/
theorem plain_injective : Function.Injective plain := by
  rintro ⟨fs, n⟩ ⟨fs', n'⟩ h
  simp only [plain, Json.object.injEq, List.cons.injEq, Prod.mk.injEq, Json.int.injEq,
    Json.list.injEq, true_and, and_true] at h
  obtain ⟨hn, -, -, -, -, -, hfs⟩ := h
  rw [hn, List.map_injective_iff.mpr fileJson_injective hfs]

end Report

/-! ## Where a report goes -/

namespace FileTree

theorem lookup_setEntry (entries : List (String × FileTree)) (name : String) (t : FileTree) :
    (setEntry entries name t).lookup name = some t := by
  induction entries with
  | nil => simp [setEntry]
  | cons e rest ih =>
    obtain ⟨n, old⟩ := e
    rw [setEntry]
    split
    · rename_i hn
      simp [hn]
    · rename_i hn
      rw [List.lookup_cons, beq_eq_false_iff_ne.mpr (Ne.symm hn)]
      exact ih

/-- What has been put at a place stands there. -/
theorem at?_put {t new after : FileTree} {place : List String} (h : t.put place new = some after) :
    after.at? place = some new := by
  induction place generalizing t after with
  | nil =>
    rw [put] at h
    rw [at?, h]
  | cons n rest ih =>
    cases t with
    | file | link => cases h
    | folder entries =>
      rw [put] at h
      split at h
      · rename_i hrest
        obtain rfl := Option.some.inj h
        rw [at?, entry?, lookup_setEntry, List.isEmpty_iff.mp hrest]
        rfl
      · split at h
        · obtain ⟨child, hchild, rfl⟩ := Option.map_eq_some_iff.mp h
          rw [at?, entry?, lookup_setEntry]
          exact ih hchild
        · cases h

end FileTree

/-- A file that has been written stands at the place that its path leads to. -/
theorem World.at?_of_write {w after : World} {p : PathName} {bytes : ByteArray}
    (h : w.write p bytes = .ok after) :
    ∃ place, w.resolve p = .ok place ∧ after.tree.at? place = some (.file bytes none) := by
  obtain ⟨place, hplace, h⟩ := bind_eq_ok_iff.mp h
  refine ⟨place, hplace, ?_⟩
  split at h
  · cases h
  · split at h
    · rename_i tree htree
      obtain rfl := Except.ok.inj h
      exact FileTree.at?_put htree
    · cases h

namespace Run

/-- **What is read where a report has gone**: all of standard output, or the content of the file
that the path leads to, once the folders on the way are made. -/
inductive Received (w : World) : Option Setting → String × World → String → Prop
  | printed (stdout : String) : Received w none (stdout, w) stdout
  | filed {path : String} {made after : World} {place : List String} {bytes : ByteArray} :
      w.makeFolders (if (PathName.ofString path).isAbsolute then [] else w.here)
        (PathName.ofString path).names.dropLast = .ok made →
      made.resolve (.ofString path) = .ok place →
      after.tree.at? place = some (.file bytes none) →
      Received w (some (.text path)) ("", after) (Scan.contentOf bytes)

/-- What is delivered arrives, in a file as it is and on standard output with a line feed. -/
theorem received_of_deliver {w : World} {text : String} {out : Option Setting}
    {x : String × World} (htext : '\r' ∉ text.toList) (h : deliver w text out = .ok x) :
    Received w out x text ∨ Received w out x (text ++ "\n") := by
  unfold deliver at h
  split at h
  · obtain rfl := Except.ok.inj h
    exact .inr (.printed _)
  · rename_i path
    split at h
    · rename_i after hafter
      obtain rfl := Except.ok.inj h
      obtain ⟨made, hmade, hwrite⟩ := bind_eq_ok_iff.mp hafter
      obtain ⟨place, hplace, hat⟩ := World.at?_of_write hwrite
      rw [← Scan.contentOf_toUTF8 htext]
      exact .inl (.filed hmade hplace hat)
    · cases h
  · cases h

end Run

namespace Report

variable {r : ScanResult}

theorem isPrinted_of_mem_text (h : r.Writable) (f : Format) :
    ∀ c ∈ (text f r).toList, IsPrinted c := by
  rw [text, render, String.toList_ofList]
  exact (readable_payload h f).isPrinted 0

theorem read_text (h : r.Writable) (f : Format) {depth : Nat} (hdepth : 9 ≤ depth)
    (tail : List Char) (htail : ∀ c ∈ tail, c = '\n') :
    Json.read depth (text f r ++ String.ofList tail) = .ok (payload f r) :=
  read_render (readable_payload h f) hdepth htail

/-- **A report says what was found**: wherever it goes and in either format, what arrives is ASCII
and read as JSON, with room for nine levels of nesting, it is the document of that format; in the
plain format, results of the same text are the same. -/
theorem received_report_reads_back (hr : r.Writable) :
    (∀ (f : Format) (w : World) (out : Option Setting) (x : String × World),
      Run.deliver w (text f r) out = .ok x →
        ∃ received, Run.Received w out x received ∧ (∀ c ∈ received.toList, c.toNat < 128) ∧
          ∀ depth, 9 ≤ depth → Json.read depth received = .ok (payload f r)) ∧
    ∀ r' : ScanResult, r'.Writable → text .plain r = text .plain r' → r = r' := by
  have hascii {c : Char} (hc : IsPrinted c) : c.toNat < 128 := by
    rcases hc with rfl | hc
    · decide
    · omega
  refine ⟨fun f w out x hx => ?_, fun r' hr' heq => ?_⟩
  · have hprinted := isPrinted_of_mem_text hr f
    have hreturn : '\r' ∉ (text f r).toList := fun h => absurd (hprinted _ h) (by decide)
    have hread {depth : Nat} (hdepth : 9 ≤ depth) := read_text hr f hdepth
    -- in a file the text stands alone, on standard output a line feed follows it
    rcases Run.received_of_deliver hreturn hx with h | h
    · refine ⟨_, h, fun c hc => hascii (hprinted c hc), fun depth hdepth => ?_⟩
      simpa using hread hdepth [] (by simp)
    · refine ⟨_, h, fun c hc => ?_, fun depth hdepth => hread hdepth ['\n'] (by simp)⟩
      rw [String.toList_append, List.mem_append] at hc
      rcases hc with hc | hc
      · exact hascii (hprinted c hc)
      · rw [List.mem_singleton.mp hc]
        decide
  · -- the reader gives both documents back from the one text
    have hread := read_text hr .plain le_rfl [] (by simp)
    rw [heq, read_text hr' .plain le_rfl [] (by simp)] at hread
    exact (plain_injective (Except.ok.inj hread)).symm

/-- A result with all that needs an escape, with syntax that is sound, broken and not looked at. -/
def unwieldy : ScanResult where
  filesScanned := -3
  files := [
    { path := "a \"b\" \\ c.js", kind := "code", validation := none
      findings := [
        ⟨"tab\tfeed\n", "Odd", "\x01\x7f", ⟨12, 0⟩, "é"⟩, ⟨"", "Low", "😀", .unknown, ""⟩] },
    { path := "", kind := "json", validation := some .accepted, findings := [] },
    { path := "x", kind := "code", findings := []
      validation := some ⟨false, [⟨⟨1, 7⟩, "m", "s", "t"⟩]⟩ }]

/-- An empty folder. -/
def bare : World := ⟨.folder [], [], .usual⟩

theorem received_report_reads_back_unwieldy :
    unwieldy.Writable ∧
    (∃ received, Run.Received bare none (text .sarif unwieldy ++ "\n", bare) received ∧
      (∀ c ∈ received.toList, c.toNat < 128) ∧
      ∀ depth, 9 ≤ depth → Json.read depth received = .ok (payload .sarif unwieldy)) ∧
    ∃ received, Run.Received bare (some (.text "o"))
      ("", ⟨.folder [("o", .file (text .plain unwieldy).toUTF8 none)], [], .usual⟩) received ∧
      (∀ c ∈ received.toList, c.toNat < 128) ∧
      ∀ depth, 9 ≤ depth → Json.read depth received = .ok (payload .plain unwieldy) := by
  have hwritable : unwieldy.Writable := by decide
  have hresolve : bare.resolve (.ofString "o") = .ok ["o"] := by
    rw [show PathName.ofString "o" = ⟨"", ["o"]⟩ by decide]
    simp [bare, World.resolve, World.resolveFrom, FileTree.at?, FileTree.entry?]
  have hfile (t : String) : Run.deliver bare t (some (.text "o")) =
      .ok ("", ⟨.folder [("o", .file t.toUTF8 none)], [], .usual⟩) := by
    have hwrite : bare.write (.ofString "o") t.toUTF8 =
        .ok ⟨.folder [("o", .file t.toUTF8 none)], [], .usual⟩ := by
      rw [World.write, hresolve]
      rfl
    have hfolders : bare.writeWithFolders (.ofString "o") t.toUTF8 =
        bare.write (.ofString "o") t.toUTF8 := rfl
    rw [Run.deliver, hfolders, hwrite]
  have hreads := (received_report_reads_back hwritable).1
  exact ⟨hwritable, hreads .sarif _ none _ rfl, hreads .plain _ _ _ (hfile _)⟩

end Report

end Advisor
