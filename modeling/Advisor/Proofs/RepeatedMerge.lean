import Advisor.Config.Merge
import Advisor.Proofs.Json.Members
import Mathlib

/-!
# Merging twice

A command line is put over a configuration by four rules: lists of words grow, lists of rules grow
by words in capitals, switches are thrown, and single values are replaced if there is one that
counts. Each rule has its own way of putting two command lines together
(`ScanArguments.followedBy`), and for each of them putting one command line over the other is
putting both together over the configuration at once. `merge_merge` assembles this for the whole
configuration. Lists are the hard part: what is added twice must be there once, and in the place
where it was first (`added_added`).
-/

namespace Advisor

/-! ## Lists that grow -/

namespace Config

theorem nodup_eraseDups (words : List String) : words.eraseDups.Nodup := by
  induction hn : words.length using Nat.strong_induction_on generalizing words with
  | _ n ih =>
    subst hn
    cases words with
    | nil => exact List.nodup_nil
    | cons word rest =>
      rw [List.eraseDups_cons, List.nodup_cons, List.mem_eraseDups]
      refine ⟨by simp, ih _ ?_ _ rfl⟩
      exact Nat.lt_succ_of_le (List.length_filter_le _ _)

/-- Whether repetitions are dropped before or after more words come makes no difference. -/
theorem eraseDups_eraseDups_append (words more : List String) :
    (words.eraseDups ++ more).eraseDups = (words ++ more).eraseDups := by
  have hmore : more.removeAll words.eraseDups = more.removeAll words := by
    refine List.filter_congr fun word _ => ?_
    simp [List.mem_eraseDups]
  rw [List.eraseDups_append, List.eraseDups_append, hmore,
    Json.eraseDups_of_nodup (nodup_eraseDups words)]

/-- Words with others added, each kept once. Without any to add nothing happens. -/
def added (old words : List String) : List String :=
  if words = [] then old else (old ++ words).eraseDups

theorem added_nil (old : List String) : added old [] = old := if_pos rfl

theorem added_of_ne_nil (old : List String) {words : List String} (h : words ≠ []) :
    added old words = (old ++ words).eraseDups := if_neg h

/-- **Adding twice** is adding all at once. -/
theorem added_added (old words more : List String) :
    added (added old words) more = added old (words ++ more) := by
  by_cases hwords : words = []
  · rw [hwords, added_nil, List.nil_append]
  · by_cases hmore : more = []
    · rw [hmore, added_nil, List.append_nil]
    · have hboth : words ++ more ≠ [] := by simp [hwords]
      rw [added_of_ne_nil _ hmore, added_of_ne_nil _ hwords, added_of_ne_nil _ hboth,
        eraseDups_eraseDups_append, List.append_assoc]

/-- Adding the same words again changes nothing. -/
theorem added_append_self (old words : List String) :
    added old (words ++ words) = added old words := by
  by_cases hwords : words = []
  · rw [hwords, List.append_nil]
  · have hboth : words ++ words ≠ [] := by simp [hwords]
    have hnone : words.removeAll (old ++ words) = [] := by
      refine List.filter_eq_nil_iff.mpr fun word hword => ?_
      simp [hword]
    rw [added_of_ne_nil _ hboth, added_of_ne_nil _ hwords, ← List.append_assoc,
      List.eraseDups_append, hnone, List.eraseDups_nil, List.append_nil]

/-- **A list grows**: what it had comes first, each word where it stood first, then what is new, and
no word comes twice. -/
structure Grows (old words new : List String) : Prop where
  order : new = old.eraseDups ++ (words.filter (· ∉ old)).eraseDups
  nodup : new.Nodup

theorem grows_added (old : List String) {words : List String} (h : words ≠ []) :
    Grows old words (added old words) where
  order := by
    have hnew : words.removeAll old = words.filter (· ∉ old) := by
      refine List.filter_congr fun word _ => ?_
      simp
    rw [added_of_ne_nil old h, List.eraseDups_append, hnew]
  nodup := by
    rw [added_of_ne_nil old h]
    exact nodup_eraseDups _

/-! ## Lists in a configuration -/

/-- The pass that keeps settings once, over texts: behind those kept so far come the others. -/
theorem distinctSettings_go_text (words kept : List String) :
    distinctSettings.go (words.map .text) (kept.map .text) =
      (kept.reverse ++ (words.filter (· ∉ kept)).eraseDups).map .text := by
  induction words generalizing kept with
  | nil => simp [distinctSettings.go]
  | cons word rest ih =>
    have hkept : (kept.map Setting.text).any (Setting.same (.text word)) = true ↔ word ∈ kept := by
      simp [Setting.same]
    rw [List.map_cons, distinctSettings.go]
    by_cases hmem : word ∈ kept
    · rw [if_pos (hkept.mpr hmem), ih, List.filter_cons_of_neg (by simpa using hmem)]
    · have hrest : (rest.filter (· ∉ kept)).filter (fun w => !w == word) =
          rest.filter (· ∉ word :: kept) := by
        rw [List.filter_filter]
        refine List.filter_congr fun w _ => ?_
        by_cases hw : w = word <;> simp [hw]
      rw [if_neg (hkept.not.mpr hmem), ← List.map_cons, ih,
        List.filter_cons_of_pos (by simpa using hmem), List.eraseDups_cons, hrest]
      simp

theorem distinctSettings_text (words : List String) :
    distinctSettings (words.map .text) = words.eraseDups.map .text := by
  have hall : words.filter (· ∉ ([] : List String)) = words :=
    List.filter_eq_self.mpr fun _ _ => by simp
  rw [distinctSettings, ← List.map_nil (f := Setting.text), distinctSettings_go_text, hall]
  rfl

/-- **Texts take any words.** -/
theorem extend_text (old words : List String) :
    extend (old.map .text) words = .ok ((added old words).map .text) := by
  by_cases hwords : words = []
  · rw [extend, if_pos (List.isEmpty_iff.mpr hwords), hwords, added_nil]
  · have hscalar : (old.map Setting.text).all Setting.isScalar = true := by simp [Setting.isScalar]
    rw [extend, if_neg (by simpa using hwords), if_pos hscalar, ← List.map_append,
      distinctSettings_text, added_of_ne_nil old hwords]

/-- A word in capitals. -/
def upperWord (word : String) : String := String.ofList (Text.upper word.toList)

theorem extendRules_eq (rules : List String) {words : List String} (h : words ≠ []) :
    extendRules rules words = added rules (words.map upperWord) := by
  rw [added_of_ne_nil rules (by simpa using h)]
  rfl

/-- The rules that are left out, under a command line. -/
theorem disabled_eq (rules words : List String) :
    (if words.isEmpty then rules else extendRules rules words) =
      added rules (words.map upperWord) := by
  by_cases hwords : words = []
  · rw [if_pos (List.isEmpty_iff.mpr hwords), hwords]
    rfl
  · rw [if_neg (by simpa using hwords), extendRules_eq rules hwords]

/-- Rules with others added, where there may be no list yet. -/
def enabledWith (rules : Option (List String)) (words : List String) : Option (List String) :=
  if words.isEmpty then rules else some (extendRules (rules.getD []) words)

theorem enabledWith_of_ne_nil (rules : Option (List String)) {words : List String}
    (h : words ≠ []) :
    enabledWith rules words = some (added (rules.getD []) (words.map upperWord)) := by
  rw [enabledWith, if_neg (by simpa using h), extendRules_eq _ h]

theorem enabledWith_enabledWith (rules : Option (List String)) (words more : List String) :
    enabledWith (enabledWith rules words) more = enabledWith rules (words ++ more) := by
  by_cases hwords : words = []
  · rw [hwords]
    rfl
  · by_cases hmore : more = []
    · rw [hmore, List.append_nil]
      rfl
    · have hboth : words ++ more ≠ [] := by simp [hwords]
      rw [enabledWith_of_ne_nil _ hmore, enabledWith_of_ne_nil _ hwords,
        enabledWith_of_ne_nil _ hboth, Option.getD_some, added_added, List.map_append]

end Config

/-! ## Two command lines -/

/-- The later of two texts, unless it is empty. -/
def laterText (first second : Option String) : Option String :=
  (second.filter fun t => !t.isEmpty).or first

/-- **One command line after another**: what can be repeated is listed one after the other, switches
are thrown if one of the two throws them, and of single values the later one counts if a merge
would take it. -/
def ScanArguments.followedBy (a b : ScanArguments) : ScanArguments :=
  { path := b.path
    config := laterText a.config b.config
    kind := laterText a.kind b.kind
    exclude := a.exclude ++ b.exclude
    extensions := a.extensions ++ b.extensions
    enabledRules := a.enabledRules ++ b.enabledRules
    disabledRules := a.disabledRules ++ b.disabledRules
    ignoreDirectives := a.ignoreDirectives || b.ignoreDirectives
    includeGenerated := a.includeGenerated || b.includeGenerated
    maxKilobytes := b.maxKilobytes.or a.maxKilobytes
    scheme := laterText a.scheme b.scheme
    format := laterText a.format b.format
    out := laterText a.out b.out
    failOn := laterText a.failOn b.failOn
    maxIssues := b.maxIssues.or a.maxIssues
    maxLow := b.maxLow.or a.maxLow
    maxMedium := b.maxMedium.or a.maxMedium
    maxHigh := b.maxHigh.or a.maxHigh
    maxCritical := b.maxCritical.or a.maxCritical
    markup := a.markup || b.markup
    failOnBrokenSyntax := a.failOnBrokenSyntax || b.failOnBrokenSyntax
    verbose := a.verbose || b.verbose }

namespace Config

/-- What counts of the later text is what counts of the second, or else of the first. -/
theorem filter_laterText (first second : Option String) :
    (laterText first second).filter (fun t => !t.isEmpty) =
      (second.filter fun t => !t.isEmpty).or (first.filter fun t => !t.isEmpty) := by
  cases second with
  | none => rfl
  | some t =>
    by_cases ht : t.isEmpty = true
    · simp [laterText, Option.filter, ht]
    · simp [laterText, Option.filter, ht]

theorem nonEmpty_laterText (first second : Option String) :
    nonEmpty (laterText first second) = (nonEmpty second).or (nonEmpty first) := by
  rw [nonEmpty, filter_laterText, Option.map_or]
  rfl

theorem limitOr_limitOr (first second : Option Int) (old : Option Setting) :
    limitOr second (limitOr first old) = limitOr (second.or first) old := by
  cases second <;> rfl

theorem mergeGate_mergeGate (g : Gate) (a b : ScanArguments) :
    mergeGate (mergeGate g a) b = mergeGate g (a.followedBy b) := by
  simp only [mergeGate, ScanArguments.followedBy, limitOr_limitOr, filter_laterText, Bool.or_assoc,
    Option.orElse_eq_orElse, Option.orElse_eq_or, Option.or_assoc]

/-- What is merged besides the lists of settings, rule by rule. -/
theorem mergeRest_eq (c : Config) (a : ScanArguments) : mergeRest c a =
    { c with
      enabledRules := enabledWith c.enabledRules a.enabledRules
      disabledRules := added c.disabledRules (a.disabledRules.map upperWord)
      directives := c.directives && !a.ignoreDirectives
      skipGenerated := c.skipGenerated && !a.includeGenerated
      maxKilobytes := a.maxKilobytes.getD c.maxKilobytes
      kind := (nonEmpty a.kind).or c.kind
      scheme := (nonEmpty a.scheme).getD c.scheme
      format := (nonEmpty a.format).getD c.format
      out := (nonEmpty a.out).or c.out
      gate := mergeGate c.gate a } := by
  rw [mergeRest, disabled_eq]
  simp only [Option.orElse_eq_orElse, Option.orElse_eq_or, enabledWith]

theorem mergeRest_mergeRest (c : Config) (a b : ScanArguments) :
    mergeRest (mergeRest c a) b = mergeRest c (a.followedBy b) := by
  have hswitch (old first second : Bool) :
      ((old && !first) && !second) = (old && !(first || second)) := by
    rw [Bool.not_or, Bool.and_assoc]
  simp only [mergeRest_eq, ScanArguments.followedBy, enabledWith_enabledWith, added_added,
    List.map_append, hswitch, Option.getD_or, nonEmpty_laterText, Option.or_assoc,
    mergeGate_mergeGate]

/-! ## The same command line again -/

theorem laterText_self (text : Option String) : laterText text text = text := by
  cases text with
  | none => rfl
  | some t =>
    by_cases ht : t.isEmpty = true
    · simp [laterText, Option.filter, ht]
    · simp [laterText, Option.filter, ht]

theorem enabledWith_append_self (rules : Option (List String)) (words : List String) :
    enabledWith rules (words ++ words) = enabledWith rules words := by
  by_cases hwords : words = []
  · rw [hwords, List.append_nil]
  · have hboth : words ++ words ≠ [] := by simp [hwords]
    rw [enabledWith_of_ne_nil _ hboth, enabledWith_of_ne_nil _ hwords, List.map_append,
      added_append_self]

theorem mergeRest_followedBy_self (c : Config) (a : ScanArguments) :
    mergeRest c (a.followedBy a) = mergeRest c a := by
  have hgate : mergeGate c.gate (a.followedBy a) = mergeGate c.gate a := by
    simp only [mergeGate, ScanArguments.followedBy, laterText_self, Option.or_self, Bool.or_self]
  rw [mergeRest_eq, mergeRest_eq, hgate]
  simp only [ScanArguments.followedBy, laterText_self, Option.or_self, Bool.or_self,
    enabledWith_append_self, List.map_append, added_append_self]

/-! ## The whole configuration -/

section Whole

variable {c : Config} {exclude extensions : List String} (hexclude : c.exclude = exclude.map .text)
  (hextensions : c.extensions = extensions.map .text)
include hexclude hextensions

/-- **A merge into lists of texts** always succeeds. -/
theorem merge_eq (a : ScanArguments) : merge c a =
    ({ mergeRest c a with
       exclude := (added exclude a.exclude).map .text
       extensions := (added extensions a.extensions).map .text }, none) := by
  simp only [merge, hexclude, hextensions, extend_text]
  rfl

theorem merge_merge_eq (a b : ScanArguments) :
    merge (merge c a).1 b = merge c (a.followedBy b) := by
  rw [merge_eq hexclude hextensions (a.followedBy b), ← mergeRest_mergeRest, merge_eq hexclude
    hextensions a, merge_eq rfl rfl b, added_added, added_added]
  rfl

theorem merge_followedBy_self (a : ScanArguments) : merge c (a.followedBy a) = merge c a := by
  rw [merge_eq hexclude hextensions, merge_eq hexclude hextensions, mergeRest_followedBy_self]
  simp only [ScanArguments.followedBy, added_append_self]

end Whole

/-- **What a command line does not mention stays as it was.** An empty text counts as none. -/
structure Keeps (a : ScanArguments) (c merged : Config) : Prop where
  exclude : a.exclude = [] → merged.exclude = c.exclude
  extensions : a.extensions = [] → merged.extensions = c.extensions
  enabledRules : a.enabledRules = [] → merged.enabledRules = c.enabledRules
  disabledRules : a.disabledRules = [] → merged.disabledRules = c.disabledRules
  directives : a.ignoreDirectives = false → merged.directives = c.directives
  skipGenerated : a.includeGenerated = false → merged.skipGenerated = c.skipGenerated
  maxKilobytes : a.maxKilobytes = none → merged.maxKilobytes = c.maxKilobytes
  kind : a.kind.getD "" = "" → merged.kind = c.kind
  scheme : a.scheme.getD "" = "" → merged.scheme = c.scheme
  format : a.format.getD "" = "" → merged.format = c.format
  out : a.out.getD "" = "" → merged.out = c.out
  failOn : a.failOn.getD "" = "" → merged.gate.failOn = c.gate.failOn
  maxIssues : a.maxIssues = none → merged.gate.maxIssues = c.gate.maxIssues
  maxLow : a.maxLow = none → merged.gate.maxLow = c.gate.maxLow
  maxMedium : a.maxMedium = none → merged.gate.maxMedium = c.gate.maxMedium
  maxHigh : a.maxHigh = none → merged.gate.maxHigh = c.gate.maxHigh
  maxCritical : a.maxCritical = none → merged.gate.maxCritical = c.gate.maxCritical
  failOnBrokenSyntax : a.failOnBrokenSyntax = false →
    merged.gate.failOnBrokenSyntax = c.gate.failOnBrokenSyntax

theorem filter_eq_none {text : Option String} (h : text.getD "" = "") :
    text.filter (fun t => !t.isEmpty) = none := by
  cases text with
  | none => rfl
  | some t =>
    replace h : t = "" := h
    subst h
    rfl

theorem nonEmpty_eq_none {text : Option String} (h : text.getD "" = "") : nonEmpty text = none := by
  rw [nonEmpty, filter_eq_none h]
  rfl

theorem keeps_merge {c : Config} {exclude extensions : List String}
    (hexclude : c.exclude = exclude.map .text) (hextensions : c.extensions = extensions.map .text)
    (a : ScanArguments) : Keeps a c (merge c a).1 := by
  rw [merge_eq hexclude hextensions, mergeRest_eq]
  constructor
  case exclude =>
    intro h
    rw [h, added_nil, hexclude]
  case extensions =>
    intro h
    rw [h, added_nil, hextensions]
  case enabledRules =>
    intro h
    rw [h]
    rfl
  case disabledRules =>
    intro h
    rw [h]
    rfl
  case directives => intro h; simp [h]
  case skipGenerated => intro h; simp [h]
  case maxKilobytes => intro h; simp [h]
  case kind => intro h; simp [nonEmpty_eq_none h]
  case scheme => intro h; simp [nonEmpty_eq_none h]
  case format => intro h; simp [nonEmpty_eq_none h]
  case out => intro h; simp [nonEmpty_eq_none h]
  case failOn => intro h; simp [mergeGate, filter_eq_none h]
  case maxIssues => intro h; simp [mergeGate, h, limitOr]
  case maxLow => intro h; simp [mergeGate, h, limitOr]
  case maxMedium => intro h; simp [mergeGate, h, limitOr]
  case maxHigh => intro h; simp [mergeGate, h, limitOr]
  case maxCritical => intro h; simp [mergeGate, h, limitOr]
  case failOnBrokenSyntax => intro h; simp [mergeGate, h]

/-- **Merging composes.** Over a configuration whose lists hold texts, merging one command line and
then another is merging the first followed by the second at once, and merging the same one again
changes nothing. What is not mentioned stays as it was, and a list that is mentioned keeps what it
had in front, in its order, with the new words behind and none twice. -/
theorem merge_merge {c : Config} {exclude extensions : List String}
    (hexclude : c.exclude = exclude.map .text) (hextensions : c.extensions = extensions.map .text)
    (a b : ScanArguments) :
    merge (merge c a).1 b = merge c (a.followedBy b) ∧
    (merge c a).2 = none ∧ (merge c (a.followedBy b)).2 = none ∧
    merge (merge c a).1 a = merge c a ∧
    Keeps a c (merge c a).1 ∧
    (a.exclude ≠ [] → ∃ new, (merge c a).1.exclude = new.map .text ∧
      Grows exclude a.exclude new) ∧
    (a.extensions ≠ [] → ∃ new, (merge c a).1.extensions = new.map .text ∧
      Grows extensions a.extensions new) ∧
    (a.enabledRules ≠ [] → ∃ new, (merge c a).1.enabledRules = some new ∧
      Grows (c.enabledRules.getD []) (a.enabledRules.map upperWord) new) ∧
    (a.disabledRules ≠ [] →
      Grows c.disabledRules (a.disabledRules.map upperWord) (merge c a).1.disabledRules) := by
  have hmerge := merge_eq hexclude hextensions
  refine ⟨merge_merge_eq hexclude hextensions a b, by rw [hmerge], by rw [hmerge], ?_,
    keeps_merge hexclude hextensions a, ?_, ?_, ?_, ?_⟩
  · rw [merge_merge_eq hexclude hextensions, merge_followedBy_self hexclude hextensions]
  · intro h
    rw [hmerge]
    exact ⟨_, rfl, grows_added exclude h⟩
  · intro h
    rw [hmerge]
    exact ⟨_, rfl, grows_added extensions h⟩
  · intro h
    rw [hmerge, mergeRest_eq]
    exact ⟨_, enabledWith_of_ne_nil _ h, grows_added _ (by simpa using h)⟩
  · intro h
    rw [hmerge, mergeRest_eq]
    exact grows_added _ (by simpa using h)

/-- A configuration that names one folder twice. -/
def repeating : Config := { Config.default with exclude := ["a", "a"].map .text }

/-- A command line with a folder, a limit of 0 and a format, and another one that has the first folder
again, a new one and no more limits. -/
def firstWords : ScanArguments :=
  { ScanArguments.initial with exclude := ["b"], maxIssues := some 0, format := some "sarif" }

def secondWords : ScanArguments :=
  { ScanArguments.initial with exclude := ["a", "c"], format := some "", failOn := some "High" }

/-- The limit of 0 and the format stay, and every folder is named once. -/
theorem merge_merge_repeating :
    repeating.exclude = ["a", "a"].map .text ∧
      merge (merge repeating firstWords).1 secondWords =
        merge repeating (firstWords.followedBy secondWords) ∧
      (merge repeating (firstWords.followedBy secondWords)).1.exclude =
        ["a", "b", "c"].map .text ∧
      (merge repeating (firstWords.followedBy secondWords)).1.gate.maxIssues = some (.int 0) ∧
      (merge repeating (firstWords.followedBy secondWords)).1.format = .text "sarif" ∧
      merge (merge repeating firstWords).1 firstWords = merge repeating firstWords := by
  have hextensions : repeating.extensions = defaultExtensions.map .text := rfl
  obtain ⟨htwice, -, -, hagain, -⟩ :=
    @merge_merge repeating ["a", "a"] defaultExtensions rfl hextensions firstWords secondWords
  exact ⟨rfl, htwice, by rfl, rfl, rfl, hagain⟩

end Config

end Advisor
