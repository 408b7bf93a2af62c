import Advisor.Proofs.FileScan
import Advisor.Proofs.GateEffect
import Advisor.Proofs.RepeatedMerge
import Advisor.Proofs.Utf8

/-!
# What a configuration is faulted for

The check of a configuration goes through its complaints in a fixed order, and each of them looks at
one setting (`Complaint.step`). A setting of the wrong kind is a reason to complain in most places.
In two it stops the check instead: a limit that is no number cannot be compared with zero, and a
format that is a list or a table cannot be looked for among the formats. `check_eq_mapM` takes the
check apart into its steps, `Complaint.step_of_decided` says what each of them does, and
`check_of_document` says it of whole documents and of the runs with them.
-/

namespace Advisor

/-! ## Kinds of settings -/

namespace Setting

/-- A number. Flags are numbers. -/
def IsNumber : Setting → Prop
  | flag _ | int _ | real _ => True
  | text _ | moment _ | list _ | table _ => False

/-- A number below zero. -/
def Negative : Setting → Prop
  | int i => i < 0
  | real x => x.isNegative = true
  | flag _ | text _ | moment _ | list _ | table _ => False

/-- One of some words. -/
def IsWord (words : List String) (s : Setting) : Prop := ∃ word ∈ words, s = .text word

instance (s : Setting) : Decidable s.Negative :=
  match s with
  | int i => inferInstanceAs (Decidable (i < 0))
  | real x => inferInstanceAs (Decidable (x.isNegative = true))
  | flag _ | text _ | moment _ | list _ | table _ => .isFalse id

instance (words : List String) (s : Setting) : Decidable (s.IsWord words) :=
  decidable_of_iff _ Config.isOneOf_iff

theorem isNegative_of_isNumber {s : Setting} (h : s.IsNumber) :
    s.isNegative = .ok (decide s.Negative) := by
  cases s with
  | flag b => rfl
  | int i => rfl
  | real x =>
    rw [isNegative]
    cases hx : x.isNegative <;> simp [Negative, hx]
  | text | moment | list | table => cases h

theorem isNegative_of_not_isNumber {s : Setting} (h : ¬s.IsNumber) :
    s.isNegative = .error .notComparable := by
  cases s with
  | flag | int | real => exact absurd trivial h
  | text | moment | list | table => rfl

end Setting

/-! ## Limits -/

/-- What a limit is set on. -/
inductive Limit where
  /-- All findings. -/
  | issues
  /-- The findings of one severity. -/
  | count (s : Severity)
  deriving DecidableEq

namespace Limit

def name : Limit → String
  | issues => "max_issues"
  | count s => s.limitName

def ofGate (g : Gate) : Limit → Option Setting
  | issues => g.maxIssues
  | count s => g.limit s

def ofArguments (a : ScanArguments) : Limit → Option Int
  | issues => a.maxIssues
  | count .low => a.maxLow
  | count .medium => a.maxMedium
  | count .high => a.maxHigh
  | count .critical => a.maxCritical

theorem ofGate_mergeGate (g : Gate) (a : ScanArguments) (l : Limit) :
    l.ofGate (Config.mergeGate g a) = ((l.ofArguments a).map .int).or (l.ofGate g) := by
  have hlimitOr (i : Option Int) (old : Option Setting) :
      Config.limitOr i old = (i.map .int).or old := by
    cases i <;> rfl
  cases l with
  | issues => exact hlimitOr _ _
  | count s => cases s <;> exact hlimitOr _ _

end Limit

/-! ## Complaints -/

/-- What there is to complain about. -/
inductive Complaint where
  | severity
  | limit (l : Limit)
  | noRules
  | unknownRules
  | kind
  | scheme
  | format
  deriving DecidableEq

namespace Complaint

variable {c : Config} {x : Complaint}

/-- The complaints in the order in which they are made. -/
def all : List Complaint :=
  [.severity, .limit .issues, .limit (.count .low), .limit (.count .medium), .limit (.count .high),
    .limit (.count .critical), .noRules, .unknownRules, .kind, .scheme, .format]

theorem mem_all (x : Complaint) : x ∈ all := by
  cases x with
  | limit l =>
    cases l with
    | issues => decide
    | count s => cases s <;> decide
  | severity | noRules | unknownRules | kind | scheme | format => decide

/-- **There is a reason to complain.** -/
def Applies (c : Config) : Complaint → Prop
  | severity => ∃ name ∈ c.gate.failOn, ¬Severity.IsName name
  | limit l => ∃ s ∈ l.ofGate c.gate, s.Negative
  | noRules => c.enabledRules = some []
  | unknownRules => ∃ rule ∈ c.enabledRules.getD [] ++ c.disabledRules, rule ∉ knownRules
  | kind => ∃ s ∈ c.kind, ¬s.IsWord Config.kinds
  | scheme => ¬c.scheme.IsWord Config.schemes
  | format => ¬c.format.IsWord Config.formats

instance (c : Config) (x : Complaint) : Decidable (x.Applies c) :=
  match x with
  | severity => inferInstanceAs (Decidable (∃ name ∈ c.gate.failOn, ¬Severity.IsName name))
  | limit l => inferInstanceAs (Decidable (∃ s ∈ l.ofGate c.gate, s.Negative))
  | noRules => inferInstanceAs (Decidable (c.enabledRules = some []))
  | unknownRules =>
    inferInstanceAs
      (Decidable (∃ rule ∈ c.enabledRules.getD [] ++ c.disabledRules, rule ∉ knownRules))
  | kind => inferInstanceAs (Decidable (∃ s ∈ c.kind, ¬s.IsWord Config.kinds))
  | scheme => inferInstanceAs (Decidable (¬c.scheme.IsWord Config.schemes))
  | format => inferInstanceAs (Decidable (¬c.format.IsWord Config.formats))

/-- What is said then. -/
def text (c : Config) : Complaint → String
  | severity => "fail_on must be one of: Low, Medium, High, Critical"
  | limit l => l.name ++ " must be >= 0"
  | noRules => "enabled_rules must be non-empty when set"
  | unknownRules => "Unknown rule IDs: " ++ ", ".intercalate c.unknownRules
  | kind => "input_type must be one of: code, config, json"
  | scheme => "version_scheme must be one of: lexical, semantic"
  | format => "format must be one of: json, sarif"

/-- **The setting can be looked at.** -/
def Decided (c : Config) : Complaint → Prop
  | limit l => ∀ s ∈ l.ofGate c.gate, s.IsNumber
  | format => c.format.isScalar = true
  | severity | noRules | unknownRules | kind | scheme => True

/-- What comes of looking at a setting that cannot be looked at. -/
def misfit : Complaint → Setting.Misfit
  | format => .notScalar
  | _ => .notComparable

/-! ### Steps of the check -/

/-- What the check does for one complaint. -/
def step (c : Config) : Complaint → Except Setting.Misfit (List String)
  | limit l => Config.limitErrors l.name (l.ofGate c.gate)
  | format =>
    if c.format.isScalar then pure (if format.Applies c then [format.text c] else [])
    else throw .notScalar
  | x => pure (if x.Applies c then [x.text c] else [])

theorem limitErrors_of_isNumber {name : String} {o : Option Setting} (h : ∀ s ∈ o, s.IsNumber) :
    Config.limitErrors name o =
      .ok (if ∃ s ∈ o, s.Negative then [name ++ " must be >= 0"] else []) := by
  cases o with
  | none => simp [Config.limitErrors]
  | some s =>
    rw [Config.limitErrors, Setting.isNegative_of_isNumber (h s rfl)]
    by_cases hs : s.Negative <;> simp [hs, bind, Except.bind, pure, Except.pure]

/-- **What one step does**: it complains if there is a reason to, provided that the setting can be
looked at. -/
theorem step_of_decided (h : x.Decided c) :
    x.step c = .ok (if x.Applies c then [x.text c] else []) := by
  cases x with
  | limit l => exact limitErrors_of_isNumber h
  | format => exact if_pos h
  | severity | noRules | unknownRules | kind | scheme => rfl

theorem step_of_not_decided (h : ¬x.Decided c) : x.step c = .error x.misfit := by
  cases x with
  | limit l =>
    obtain ⟨s, hs, hnumber⟩ : ∃ s ∈ l.ofGate c.gate, ¬s.IsNumber := by
      simpa only [Decided, not_forall, exists_prop] using h
    rw [Option.mem_def] at hs
    simp only [step, hs, Config.limitErrors, Setting.isNegative_of_not_isNumber hnumber]
    rfl
  | format => exact if_neg h
  | severity | noRules | unknownRules | kind | scheme => exact absurd trivial h

end Complaint

namespace Config

variable {c : Config}

/-- Nothing is said exactly where there is no reason to complain. -/
theorem expect_eq {b : Bool} {p : Prop} [Decidable p] (h : b = true ↔ ¬p) (said : String) :
    (if b then [] else [said]) = if p then [said] else [] := by
  by_cases hp : p
  · rw [if_neg (h.not.mpr (not_not_intro hp)), if_pos hp]
  · rw [if_pos (h.mpr hp), if_neg hp]

/-- **The check is its steps**, one after the other. -/
theorem check_eq_mapM (c : Config) :
    c.check = List.flatten <$> Complaint.all.mapM (Complaint.step c) := by
  have hseverity : (c.gate.failOn.map (Severity.all.map (·.name)).contains).getD true = true ↔
      ¬Complaint.severity.Applies c := by
    rw [getD_map_eq_true_iff]
    simp [Complaint.Applies, Severity.IsName]
  have hempty : (c.enabledRules != some []) = true ↔ ¬Complaint.noRules.Applies c := by
    simp [Complaint.Applies]
  have hrules : c.unknownRules.isEmpty = true ↔ ¬Complaint.unknownRules.Applies c := by
    rw [List.isEmpty_iff, unknownRules_eq_nil_iff]
    simp [Complaint.Applies]
  have hkind : (c.kind.map (isOneOf kinds)).getD true = true ↔ ¬Complaint.kind.Applies c := by
    rw [getD_map_eq_true_iff]
    simp [Complaint.Applies, isOneOf_iff, Setting.IsWord]
  have hscheme : isOneOf schemes c.scheme = true ↔ ¬Complaint.scheme.Applies c := by
    simp [Complaint.Applies, isOneOf_iff, Setting.IsWord]
  have hformat : isOneOf formats c.format = true ↔ ¬Complaint.format.Applies c := by
    simp [Complaint.Applies, isOneOf_iff, Setting.IsWord]
  unfold check
  simp only [expect_eq hseverity, expect_eq hempty, expect_eq hrules, expect_eq hkind,
    expect_eq hscheme, expect_eq hformat, Complaint.all, List.mapM_cons, List.mapM_nil, map_bind,
    map_pure, bind_assoc, pure_bind, Complaint.step, List.flatten_cons, List.flatten_nil,
    List.append_nil, List.append_assoc]
  -- the format comes last, so where it cannot be looked at all other steps are behind
  cases c.format.isScalar with
  | true => rfl
  | false => rfl

/-- **The complaints about a configuration**, as they are worded. -/
def messages (c : Config) : List String :=
  (Complaint.all.filter (·.Applies c)).map (·.text c)

/-- **A run of steps** whose settings can all be looked at. -/
theorem flatten_mapM_step {xs : List Complaint} (h : ∀ x ∈ xs, x.Decided c) :
    List.flatten <$> xs.mapM (Complaint.step c) =
      .ok ((xs.filter (·.Applies c)).map (·.text c)) := by
  have hsteps : xs.mapM (Complaint.step c) =
      .ok (xs.map fun x => if x.Applies c then [x.text c] else []) := by
    rw [mapM_congr_of_mem fun x hx => Complaint.step_of_decided (h x hx)]
    exact List.mapM_pure
  have htexts : (xs.map fun x => if x.Applies c then [x.text c] else []).flatten =
      (xs.filter (·.Applies c)).map (·.text c) := by
    clear h hsteps
    induction xs with
    | nil => rfl
    | cons x rest ih =>
      rw [List.map_cons, List.flatten_cons, ih]
      by_cases hx : x.Applies c <;> simp [hx]
  rw [hsteps, ← htexts]
  rfl

/-- **The check returns exactly if every setting can be looked at**, and then with the complaints
that there is a reason for. -/
theorem check_eq_ok_iff {messages : List String} :
    c.check = .ok messages ↔ (∀ x : Complaint, x.Decided c) ∧ messages = c.messages := by
  constructor
  · intro h
    have hdecided : ∀ x : Complaint, x.Decided c := by
      intro x
      by_contra hx
      obtain ⟨e, he⟩ := exists_mapM_eq_error_of_mem x.mem_all (Complaint.step_of_not_decided hx)
      rw [check_eq_mapM, he] at h
      cases h
    rw [check_eq_mapM, flatten_mapM_step fun x _ => hdecided x] at h
    exact ⟨hdecided, (Except.ok.inj h).symm⟩
  · rintro ⟨hdecided, rfl⟩
    rw [check_eq_mapM, flatten_mapM_step fun x _ => hdecided x]
    rfl

/-- What stops the check is a setting that cannot be looked at. -/
theorem exists_of_check_eq_error {misfit : Setting.Misfit} (h : c.check = .error misfit) :
    ∃ x : Complaint, ¬x.Decided c ∧ misfit = x.misfit := by
  rw [check_eq_mapM] at h
  cases hsteps : Complaint.all.mapM (Complaint.step c) with
  | ok parts =>
    rw [hsteps] at h
    cases h
  | error e =>
    rw [hsteps] at h
    obtain rfl := Except.error.inj h
    obtain ⟨x, -, hx⟩ := exists_mem_of_mapM_eq_error hsteps
    have hdecided : ¬x.Decided c := by
      intro hdecided
      rw [Complaint.step_of_decided hdecided] at hx
      cases hx
    rw [Complaint.step_of_not_decided hdecided] at hx
    exact ⟨x, hdecided, (Except.error.inj hx).symm⟩

/-! ## From a document -/

/-- What a document has under a name in a section. -/
def settingAt (document : List (String × Setting)) (place name : String) : Option Setting :=
  match document.lookup place with
  | some (.table entries) => entries.lookup name
  | _ => none

theorem lookup_of_entries {document entries : List (String × Setting)} {place : String}
    (h : (sectionOf document place).entries = .ok entries) (name : String) :
    entries.lookup name = settingAt document place name := by
  rw [sectionOf] at h
  rw [settingAt]
  cases hplace : document.lookup place with
  | none =>
    rw [hplace] at h
    obtain rfl := Except.ok.inj h
    rfl
  | some s =>
    rw [hplace] at h
    cases s with
    | table es =>
      obtain rfl := Except.ok.inj h
      rfl
    | flag | int | real | text | moment | list => cases h

/-- **What a merged configuration has from where.** The command line goes before the document, and
the document before the defaults. -/
structure Stems (document : List (String × Setting)) (a : ScanArguments) (m : Config) : Prop where
  severity : m.gate.failOn = (a.failOn.filter fun t => !t.isEmpty).or
    ((settingAt document "quality_gate" "fail_on").map fun s => normalizeSeverity s.shown)
  limit : ∀ l : Limit, l.ofGate m.gate =
    ((l.ofArguments a).map .int).or (settingAt document "quality_gate" l.name)
  kind : m.kind = (nonEmpty a.kind).or (settingAt document "scan" "input_type")
  scheme : m.scheme = ((nonEmpty a.scheme).or
    (settingAt document "dependencies" "version_scheme")).getD (.text "lexical")
  format : m.format = ((nonEmpty a.format).or (settingAt document "report" "format")).getD
    (.text "json")

/-- A document under an empty command line. -/
theorem stems_of_document {document : List (String × Setting)} (h : ofDocument document = .ok c) :
    Stems document .initial c := by
  simp only [ofDocument, bind_eq_ok_iff] at h
  obtain ⟨scan, hscan, exclude, -, extensions, -, h⟩ := h
  -- Whether the next three settings are there only matters for what is read of them.
  generalize scan.lookup "max_file_size_kb" = kilobytes, scan.lookup "enabled_rules" = enabled,
    scan.lookup "disabled_rules" = disabled at h
  cases kilobytes <;> cases enabled <;> cases disabled
  all_goals
    simp only [bind_eq_ok_iff] at h
    obtain ⟨_, -, _, -, _, -, dependencies, hdependencies, gate, hgate, report, hreport, h⟩ := h
    obtain rfl := Except.ok.inj h
    have hlimit := lookup_of_entries hgate
    refine ⟨?_, fun l => ?_, lookup_of_entries hscan _, ?_, ?_⟩
    · exact congrArg (Option.map _) (hlimit _)
    · cases l with
      | issues => exact hlimit _
      | count s => cases s <;> exact hlimit _
    · exact congrArg (Option.getD · _) (lookup_of_entries hdependencies _)
    · exact congrArg (Option.getD · _) (lookup_of_entries hreport _)

theorem exists_mergeRest {m : Config} {a : ScanArguments} (h : c.merge a = (m, none)) :
    ∃ exclude extensions, m = mergeRest { c with exclude, extensions } a := by
  cases hexclude : extend c.exclude a.exclude with
  | error misfit => simp [merge, hexclude] at h
  | ok exclude =>
    cases hextensions : extend c.extensions a.extensions with
    | error misfit => simp [merge, hexclude, hextensions] at h
    | ok extensions =>
      simp only [merge, hexclude, hextensions, Prod.mk.injEq, and_true] at h
      exact ⟨exclude, extensions, h.symm⟩

/-- **The command line goes on top.** -/
theorem Stems.merge {document : List (String × Setting)} {m : Config} {a : ScanArguments}
    (h : Stems document .initial c) (hmerge : c.merge a = (m, none)) : Stems document a m := by
  obtain ⟨exclude, extensions, rfl⟩ := exists_mergeRest hmerge
  rw [mergeRest_eq]
  constructor
  case severity =>
    have hold : c.gate.failOn = _ := h.severity
    simp only [mergeGate, hold, Option.orElse_eq_orElse, Option.orElse_eq_or]
    rfl
  case limit =>
    intro l
    have hold : l.ofGate c.gate = _ := h.limit l
    have hnone : l.ofArguments .initial = none := by
      cases l with
      | issues => rfl
      | count s => cases s <;> rfl
    rw [Limit.ofGate_mergeGate, hold, hnone]
    rfl
  case kind =>
    have hold : c.kind = _ := h.kind
    simp only [hold]
    rfl
  case scheme =>
    have hold : c.scheme = _ := h.scheme
    simp only [hold, Option.getD_or]
    rfl
  case format =>
    have hold : c.format = _ := h.format
    simp only [hold, Option.getD_or]
    rfl

section Whole

variable {document : List (String × Setting)} {m : Config} {a : ScanArguments}

theorem Stems.limit_decided_iff (h : Stems document a m) (l : Limit) :
    (Complaint.limit l).Decided m ↔
      (l.ofArguments a = none → ∀ s ∈ settingAt document "quality_gate" l.name, s.IsNumber) := by
  rw [Complaint.Decided, h.limit]
  cases hl : l.ofArguments a with
  | none => simp
  | some i => simp [Setting.IsNumber]

theorem Stems.format_decided_iff (h : Stems document a m) :
    Complaint.format.Decided m ↔
      (a.format.getD "" = "" → ∀ s ∈ settingAt document "report" "format", s.isScalar = true) := by
  rw [Complaint.Decided, h.format]
  by_cases hformat : a.format.getD "" = ""
  · rw [nonEmpty_eq_none hformat, Option.none_or]
    cases hs : settingAt document "report" "format" with
    | none => simp [Setting.isScalar]
    | some s => simp [hformat]
  · obtain ⟨t, ht⟩ : ∃ t, nonEmpty a.format = some (.text t) := by
      cases hf : a.format with
      | none => simp [hf] at hformat
      | some t => exact ⟨t, by simp_all [nonEmpty]⟩
    rw [ht]
    simp [Setting.isScalar, hformat]

/-- Which settings of a document the check must be able to look at. -/
theorem Stems.decided_iff (h : Stems document a m) :
    (∀ x : Complaint, x.Decided m) ↔
      (∀ l : Limit, l.ofArguments a = none →
        ∀ s ∈ settingAt document "quality_gate" l.name, s.IsNumber) ∧
      (a.format.getD "" = "" →
        ∀ s ∈ settingAt document "report" "format", s.isScalar = true) := by
  rw [← h.format_decided_iff]
  simp only [← h.limit_decided_iff]
  constructor
  · intro hall
    exact ⟨fun l => hall _, hall _⟩
  · rintro ⟨hlimits, hformat⟩ x
    cases x with
    | limit l => exact hlimits l
    | format => exact hformat
    | severity | noRules | unknownRules | kind | scheme => trivial

/-- **What comes of settings of the wrong kind.** The check of a document under a command line
returns exactly if every limit is a number and the format is a single value, where the command line
does not replace them. Then its messages are those that there is a reason for, in order, and with
any of them the run ends with exit code 2 before it scans anything. A scheme, a kind or a single
format of the wrong kind is such a reason. A limit that is no number and a format that is a list or
a table are none: they stop the check, and the run with it. -/
theorem check_of_document (hread : ofDocument document = .ok c) (hmerge : c.merge a = (m, none)) :
    Stems document a m ∧
    ((∃ messages, m.check = .ok messages) ↔
      (∀ l : Limit, l.ofArguments a = none →
        ∀ s ∈ settingAt document "quality_gate" l.name, s.IsNumber) ∧
      (a.format.getD "" = "" →
        ∀ s ∈ settingAt document "report" "format", s.isScalar = true)) ∧
    (∀ messages, m.check = .ok messages → messages = m.messages) ∧
    (∀ misfit, m.check = .error misfit → ∃ x : Complaint, ¬x.Decided m ∧ misfit = x.misfit) ∧
    (∀ w input, load w a.config = .ok c →
      (∀ misfit, m.check = .error misfit → Run.scan w input a = .error (.misfit misfit)) ∧
      (∀ messages, m.check = .ok messages → messages ≠ [] →
        Run.scan w input a = .ok
          { exitCode := 2, stdout := ""
            stderr := Run.printed (Run.gateLines (messages ++
              if a.path = Run.inputPath ∧ m.kind = none then
                ["--input-type is required when reading standard input"] else []))
            world := w })) := by
  have hstems := (stems_of_document hread).merge hmerge
  refine ⟨hstems, ?_, fun messages h => (check_eq_ok_iff.mp h).2,
    fun misfit => exists_of_check_eq_error, ?_⟩
  · rw [← hstems.decided_iff]
    simp only [check_eq_ok_iff, exists_and_left, exists_eq, and_true]
  · intro w input hload
    have hscan : Run.scan w input a = Run.runFrom w input c a := by
      rw [Run.scan_eq_runFrom, hload]
      rfl
    rw [hscan]
    constructor
    · intro misfit hcheck
      rw [Run.runFrom, hmerge]
      simp only [Run.complaints, hcheck]
      rfl
    · intro messages hcheck hne
      refine Run.runFrom_of_complaints hmerge ?_ (by simp [hne])
      rw [Run.complaints, hcheck]
      by_cases hinput : a.path = Run.inputPath ∧ m.kind = none
      · simp [hinput, Except.mapError, bind, Except.bind, pure, Except.pure]
      · simp [hinput, Except.mapError, bind, Except.bind, pure, Except.pure]

end Whole

/-- A folder with nothing but the usual configuration, of some text. -/
def configured (text : String) : World :=
  ⟨.folder [(fileName, .file text.toUTF8 none)], [], .usual⟩

theorem load_configured (text : String) : load (configured text) none =
    ofText Machine.usual.configNesting text := by
  have hfind : (configured text).find? (.ofString fileName) =
      some ([fileName], .file text.toUTF8 none) := by cbv
  simp only [load, loadFile, hfind, Option.isSome_some, if_true, ofBytes]
  rw [String.toUTF8_eq_toByteArray, ← String.utf8Encode_toList, Text.decodeStrict_utf8Encode]
  dsimp only
  rw [String.ofList_toList]
  rfl

/-- A document with a word for a limit and a list for the format. -/
def unfitDocument : List (String × Setting) :=
  [("quality_gate", .table [("max_issues", .text "ten")]), ("report", .table [("format", .list [])])]

def unfitText : String := "[quality_gate]\nmax_issues = \"ten\"\n[report]\nformat = []\n"

/-- Its configuration. -/
def unfit : Config :=
  { Config.default with
    gate := { Gate.none with maxIssues := some (.text "ten") }, format := .list [] }

theorem load_unfit : load (configured unfitText) none = .ok unfit := by
  have hread : Toml.read Machine.usual.configNesting unfitText = .ok unfitDocument := by cbv
  rw [load_configured, ofText, hread]
  rfl

/-- A command line that replaces the limit. -/
def limiting (limit : Int) : ScanArguments :=
  { ScanArguments.initial with maxIssues := some limit }

/-- The list is only looked at once the limit is a number, and neither of them is complained
about. -/
theorem unfit_breaks_off :
    load (configured unfitText) none = .ok unfit ∧
      (unfit.merge .initial).2 = none ∧ (unfit.merge (limiting 0)).2 = none ∧
      (¬∃ messages, (unfit.merge .initial).1.check = .ok messages) ∧
      (¬∃ messages, (unfit.merge (limiting 0)).1.check = .ok messages) ∧
      Run.scan (configured unfitText) ByteArray.empty .initial = .error (.misfit .notComparable) ∧
      Run.scan (configured unfitText) ByteArray.empty (limiting 0) =
        .error (.misfit .notScalar) := by
  have hcheck : (unfit.merge .initial).1.check = .error .notComparable := rfl
  have hcheck' : (unfit.merge (limiting 0)).1.check = .error .notScalar := rfl
  have hscan {a : ScanArguments} (ha : a.config = none) :
      Run.scan (configured unfitText) ByteArray.empty a =
        Run.runFrom (configured unfitText) ByteArray.empty unfit a := by
    rw [Run.scan_eq_runFrom, ha, load_unfit]
    rfl
  refine ⟨load_unfit, rfl, rfl, by simp [hcheck], by simp [hcheck'], ?_, ?_⟩
  · rw [hscan rfl]
    rfl
  · rw [hscan rfl]
    rfl

/-- A command line that replaces the format as well, and has a limit that no count can keep. -/
def replacing : ScanArguments := { limiting (-1) with format := some "json" }

/-- What the command line replaces is not looked at any more, and the new limit is complained
about. -/
theorem check_of_document_replaced :
    ofDocument unfitDocument = .ok unfit ∧ (unfit.merge replacing).2 = none ∧
      (unfit.merge replacing).1.check = .ok ["max_issues must be >= 0"] ∧
      Run.scan (configured unfitText) ByteArray.empty replacing =
        .ok
          { exitCode := 2, stdout := "", stderr := "[gate] max_issues must be >= 0\n"
            world := configured unfitText } := by
  have hread : ofDocument unfitDocument = .ok unfit := rfl
  have hmerge : unfit.merge replacing = ((unfit.merge replacing).1, none) := rfl
  have hcheck : (unfit.merge replacing).1.check = .ok ["max_issues must be >= 0"] := by cbv
  obtain ⟨-, -, -, -, hrun⟩ := check_of_document hread hmerge
  exact ⟨hread, rfl, hcheck, (hrun _ ByteArray.empty load_unfit).2 _ hcheck (by simp)⟩

end Config

end Advisor
