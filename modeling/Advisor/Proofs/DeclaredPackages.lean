import Advisor.Proofs.Json.Members
import Advisor.Proofs.ManifestCheck
import Advisor.Proofs.Tally

/-!
# The packages that a manifest is faulted for

A package may be named several times: in one section, where the reader settles it, and in both
sections, where the merge does. `effective?` says what comes of it for one package and `places` in
which order the packages stand, and `lookup_merged` and `map_fst_merged` that the merge does just
that. What is no text is dropped after the merge, so it still hides what it stands for
(`mem_declared_iff`). `findings_of_manifest` goes on from there to the findings.
-/

namespace Advisor

namespace Manifest

open Json

variable {manifest : List (String × Json)} {scheme : VersionScheme}

/-- **What a manifest says of a package** in the end: what the development dependencies say if they
are an object that names it, and otherwise what the dependencies say. -/
def effective? (manifest : List (String × Json)) (package : String) : Option Json :=
  (((object manifest).member? "devDependencies").bind (member? package)).or
    (((object manifest).member? "dependencies").bind (member? package))

/-- The names in a section of a manifest, in their order. A section that is no object has none. -/
def sectionNames (manifest : List (String × Json)) (name : String) : List String :=
  (section? manifest name).map Prod.fst

/-- The names of a manifest in the order in which they are looked up: those of the dependencies,
then those that only the development dependencies have. -/
def places (manifest : List (String × Json)) : List String :=
  sectionNames manifest "dependencies" ++
    (sectionNames manifest "devDependencies").filter
      (· ∉ sectionNames manifest "dependencies")

/-- **The packages that a manifest is faulted for**, each with the version it is declared in. -/
structure Faulted (manifest : List (String × Json)) (scheme : VersionScheme)
    (faulted : List (Advisory × String)) : Prop where
  /-- They are those whose version, without its signs for ranges, is below the one that mends
  them. -/
  vulnerable : ∀ a version, (a, version) ∈ faulted ↔
    a ∈ advisories ∧ effective? manifest a.package = some (.str version) ∧
      Version.compareTexts (bareVersion version) a.fixedIn scheme = .below
  /-- No package is there twice. -/
  once : (faulted.map (·.1.package)).Nodup
  /-- They come in the order of the manifest. -/
  inOrder : (faulted.map (·.1.package)).Sublist (places manifest)

/-! ## What is declared -/

theorem lookup_section? (manifest : List (String × Json)) (name package : String) :
    (section? manifest name).lookup package =
      ((object manifest).member? name).bind (member? package) := by
  have hmember : (object manifest).member? name = manifest.lookup name := rfl
  rw [section?, hmember]
  cases manifest.lookup name with
  | none => rfl
  | some v => cases v <;> rfl

theorem nodup_sectionNames (h : (object manifest).WellNamed) (name : String) :
    (sectionNames manifest name).Nodup := by
  rw [sectionNames, section?]
  cases hlookup : manifest.lookup name with
  | none => exact List.nodup_nil
  | some v =>
    have hv : v.WellNamed := by
      obtain ⟨hnodup, hbelow⟩ := h.of_object
      exact hbelow _ ((lookup_eq_some_iff_mem hnodup).mp hlookup)
    cases v with
    | object members => exact hv.of_object.1
    | null | bool | int | real | str | list => exact List.nodup_nil

/-- The two sections together, before anything but texts is dropped. -/
def merged (manifest : List (String × Json)) : List (String × Json) :=
  putAll (section? manifest "dependencies") (section? manifest "devDependencies")

/-- **Development dependencies win over others of the same name.** -/
theorem lookup_merged (h : (object manifest).WellNamed) (package : String) :
    (merged manifest).lookup package = effective? manifest package := by
  have hdev : ((section? manifest "devDependencies").map Prod.fst).Nodup :=
    nodup_sectionNames h "devDependencies"
  rw [merged, lookup_putAll, lookup_reverse hdev, lookup_section?, lookup_section?, effective?]

/-- **At the place of those.** -/
theorem map_fst_merged (h : (object manifest).WellNamed) :
    (merged manifest).map Prod.fst = places manifest := by
  rw [merged, map_fst_putAll, ← sectionNames, ← sectionNames,
    eraseDups_of_nodup (nodup_sectionNames h "devDependencies"), places]

theorem nodup_merged (h : (object manifest).WellNamed) :
    ((merged manifest).map Prod.fst).Nodup :=
  nodup_putAll (nodup_sectionNames h "dependencies")

/-- A declared package has a text for its version. -/
theorem mem_declared_iff (h : (object manifest).WellNamed) {package version : String} :
    (package, version) ∈ declared manifest ↔
      effective? manifest package = some (.str version) := by
  rw [← lookup_merged h, lookup_eq_some_iff_mem (nodup_merged h), declared, List.mem_filterMap]
  constructor
  · rintro ⟨⟨name, v⟩, hm, hv⟩
    cases v with
    | str s =>
      cases hv
      exact hm
    | null | bool | int | real | list | object => cases hv
  · intro hm
    exact ⟨_, hm, rfl⟩

theorem sublist_declared (h : (object manifest).WellNamed) :
    ((declared manifest).map Prod.fst).Sublist (places manifest) := by
  rw [← map_fst_merged h, declared, List.map_filterMap, ← List.filterMap_eq_map]
  refine filterMap_sublist (.refl _) fun m name hname => ?_
  obtain ⟨d, hd, rfl⟩ := Option.map_eq_some_iff.mp hname
  obtain ⟨n, v⟩ := m
  cases v with
  | str s =>
    cases hd
    rfl
  | null | bool | int | real | list | object => cases hd

/-! ## What is found -/

/-- A bare version leaves nothing but signs for ranges out, wherever they stand, and keeps the
order. -/
theorem sublist_bareVersion (version : String) :
    (bareVersion version).toList.Sublist version.toList := by
  rw [bareVersion, String.toList_ofList]
  exact List.filter_sublist

theorem count_bareVersion (version : String) (c : Char) :
    (bareVersion version).toList.count c =
      if c = '^' ∨ c = '~' then 0 else version.toList.count c := by
  rw [bareVersion, String.toList_ofList]
  split
  · rename_i hsign
    refine List.count_eq_zero.mpr fun hc => ?_
    rcases hsign with rfl | rfl <;> simp at hc
  · rename_i hsign
    refine List.count_filter ?_
    simpa using hsign

/-- A declared package that is faulted, with its version. -/
def faulted? (scheme : VersionScheme) (d : String × String) : Option (Advisory × String) :=
  (advisories.find? (·.package == d.1)).bind fun a =>
    if Version.compareTexts (bareVersion d.2) a.fixedIn scheme = .below then some (a, d.2) else none

theorem finding?_eq_map (scheme : VersionScheme) (d : String × String) :
    finding? scheme d = (faulted? scheme d).map fun x => report x.1 x.2 := by
  rw [finding?, faulted?, Option.map_bind]
  congr 1
  funext a
  rw [Function.comp_apply]
  split <;> rfl

/-- There is one advisory for a package. -/
theorem find?_advisories_iff {a : Advisory} {package : String} :
    advisories.find? (·.package == package) = some a ↔ a ∈ advisories ∧ a.package = package := by
  have hself : ∀ a ∈ advisories, advisories.find? (·.package == a.package) = some a := by
    simp only [advisories, List.forall_mem_cons]
    exact ⟨rfl, rfl, rfl, rfl, by simp⟩
  constructor
  · intro h
    have hname := List.find?_some h
    exact ⟨List.mem_of_find?_eq_some h, eq_of_beq hname⟩
  · rintro ⟨ha, rfl⟩
    exact hself a ha

theorem faulted?_eq_some_iff {d : String × String} {a : Advisory} {version : String} :
    faulted? scheme d = some (a, version) ↔ a ∈ advisories ∧ d = (a.package, version) ∧
      Version.compareTexts (bareVersion version) a.fixedIn scheme = .below := by
  rw [faulted?, Option.bind_eq_some_iff]
  constructor
  · rintro ⟨a', hfind, h⟩
    obtain ⟨ha, hname⟩ := find?_advisories_iff.mp hfind
    split at h
    · rename_i hbelow
      cases h
      exact ⟨ha, Prod.ext hname.symm rfl, hbelow⟩
    · cases h
  · rintro ⟨ha, rfl, hbelow⟩
    exact ⟨a, find?_advisories_iff.mpr ⟨ha, rfl⟩, if_pos hbelow⟩

/-- **The pass over the declared packages finds those that are faulted.** -/
theorem faulted_declared (h : (object manifest).WellNamed) :
    Faulted manifest scheme ((declared manifest).filterMap (faulted? scheme)) := by
  have hsub : (((declared manifest).filterMap (faulted? scheme)).map (·.1.package)).Sublist
      (places manifest) := by
    refine List.Sublist.trans ?_ (sublist_declared h)
    rw [List.map_filterMap, ← List.filterMap_eq_map]
    refine filterMap_sublist (.refl _) fun d name hname => ?_
    obtain ⟨x, hx, rfl⟩ := Option.map_eq_some_iff.mp hname
    obtain ⟨-, rfl, -⟩ := faulted?_eq_some_iff.mp hx
    rfl
  refine ⟨fun a version => ?_, hsub.nodup (map_fst_merged h ▸ nodup_merged h), hsub⟩
  simp only [List.mem_filterMap, faulted?_eq_some_iff, ← mem_declared_iff h]
  constructor
  · rintro ⟨d, hd, ha, rfl, hbelow⟩
    exact ⟨ha, hd, hbelow⟩
  · rintro ⟨ha, hd, hbelow⟩
    exact ⟨_, hd, ha, rfl, hbelow⟩

/-- The same pass, where no comparison breaks it off. -/
theorem checkDeclared_of_faulted {ds : List (String × String)}
    (h : ∀ d ∈ ds, ¬ BreaksPass scheme d) :
    (checkDeclared scheme ds).1 =
      .ok ((ds.filterMap (faulted? scheme)).map fun x => report x.1 x.2) := by
  rcases checkDeclared_fst scheme ds with ⟨hok, -⟩ | ⟨-, d, hd, hbreak⟩
  · rw [hok, List.map_filterMap]
    simp only [finding?_eq_map]
  · exact absurd hbreak (h d hd)

/-- **What a manifest is faulted for.** An object is read with one member for each name that is
written, in the place of the first and with the value of the last, whatever the names and values
are; names count as written alike if they differ only in escapes for half a pair, which are all read
as U+FFFD. A bare version is the text of the version without its signs for ranges and with all its
other characters in their order. Unless the comparison of some version breaks off, the check of an
object applies, and it finds one thing for every package with a known vulnerability whose effective
value is a text that, bare, is below the version that mends it, and nothing else. Each finding has
the severity of its advisory and shows the version as it is declared, and they come in the order of
the dependencies, followed by what only the development dependencies name. -/
theorem findings_of_manifest {content kind : String} {nesting : Nat}
    {members : List (String × Json)} (hkind : kind = "config" ∨ kind = "json")
    (hread : Json.read nesting content = .ok (.object members)) (scheme : VersionScheme)
    (hcompare : ∀ a ∈ advisories, ∀ version, effective? members a.package = some (.str version) →
      Version.compareTexts (bareVersion version) a.fixedIn scheme ≠ .numberTooLong) :
    (∃ rest, Json.Value (skipSpace content.toList) (.object members) rest ∧ skipSpace rest = []) ∧
    (∀ written, ∃ ms, Json.Bracket.curly.value written = .object ms ∧
      ms.map Prod.fst = (written.map Prod.fst).eraseDups ∧
      ∀ name, ms.lookup name = written.reverse.lookup name) ∧
    (∀ version, (bareVersion version).toList.Sublist version.toList ∧
      ∀ c, (bareVersion version).toList.count c =
        if c = '^' ∨ c = '~' then 0 else version.toList.count c) ∧
    ∃ faulted, Faulted members scheme faulted ∧
      (check (some content) kind scheme nesting).1 = .ok (.applicable (faulted.map fun x =>
        { title := "Insecure Dependency"
          severity := x.1.severity
          description := "Vulnerable version of " ++ x.1.package ++ " detected (" ++ x.2 ++ "). " ++
            x.1.message
          place := .unknown
          rule := dependencyRule })) := by
  have hnamed := wellNamed_of_read hread
  refine ⟨value_of_read hread, fun written => ⟨putAll [] written, rfl, ?_, fun name => ?_⟩,
    fun version => ⟨sublist_bareVersion version, count_bareVersion version⟩,
    _, faulted_declared hnamed, ?_⟩
  · simp [map_fst_putAll]
  · simp [lookup_putAll]
  · have hpass : ∀ d ∈ declared members, ¬ BreaksPass scheme d := by
      rintro ⟨package, version⟩ hd ⟨a, hfind, hbreak⟩
      obtain ⟨ha, rfl⟩ := find?_advisories_iff.mp hfind
      exact hcompare a ha version ((mem_declared_iff hnamed).mp hd) hbreak
    have hmanifest : isManifestKind kind = true := by
      simpa [isManifestKind] using hkind
    simp only [check, hmanifest, if_true, Option.map_some, hread, checkDeclared_of_faulted hpass]
    rfl

/-- A manifest that declares one package twice in one section and another in both sections. -/
def shadowing : String :=
  "\x7b\"dependencies\":\x7b\"express\":\"9\",\"lodash\":\"4\",\"express\":\"~4.0\"\x7d," ++
    "\"devDependencies\":\x7b\"axios\":\"0\",\"lodash\":1\x7d\x7d"

/-- Its members. -/
def shadowed : List (String × Json) :=
  [("dependencies", .object [("express", .str "~4.0"), ("lodash", .str "4")]),
    ("devDependencies", .object [("axios", .str "0"), ("lodash", .int 1)])]

theorem read_shadowing :
    Json.read Machine.usual.manifestNesting shadowing = .ok (.object shadowed) := by
  cbv

/-- The first package is faulted in its last version, the second not at all, since its version is no
text in the end, and the third comes after them. -/
theorem findings_of_shadowing :
    Json.read Machine.usual.manifestNesting shadowing = .ok (.object shadowed) ∧
    (∃ faulted, Faulted shadowed .semantic faulted ∧
      (check (some shadowing) "json" .semantic Machine.usual.manifestNesting).1 =
        .ok (.applicable (faulted.map fun x =>
          { title := "Insecure Dependency"
            severity := x.1.severity
            description := "Vulnerable version of " ++ x.1.package ++ " detected (" ++ x.2 ++ "). " ++
              x.1.message
            place := .unknown
            rule := dependencyRule }))) ∧
    (check (some shadowing) "json" .semantic Machine.usual.manifestNesting).1 =
      .ok (.applicable [report advisories[0] "~4.0", report advisories[2] "0"]) := by
  have hcompare : ∀ a ∈ advisories, ∀ version,
      effective? shadowed a.package = some (.str version) →
      Version.compareTexts (bareVersion version) a.fixedIn .semantic ≠ .numberTooLong := by
    simp only [advisories, List.forall_mem_cons]
    refine ⟨?_, ?_, ?_, ?_, by simp⟩
    · intro version h
      obtain rfl : "~4.0" = version := Json.str.inj (Option.some.inj h)
      decide
    · intro version h
      cases h
    · intro version h
      obtain rfl : "0" = version := Json.str.inj (Option.some.inj h)
      decide
    · intro version h
      cases h
  obtain ⟨-, -, -, hfound⟩ := findings_of_manifest (.inr rfl) read_shadowing .semantic hcompare
  refine ⟨read_shadowing, hfound, ?_⟩
  simp only [check, Option.map_some, read_shadowing]
  rfl

end Manifest

end Advisor
