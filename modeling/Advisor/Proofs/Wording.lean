import Advisor.Proofs.QuotedToken
import Mathlib

/-!
# The words of a diagnostic

A message takes in text that comes from elsewhere, a token of the source or the kind of a node, and
is then read again: a location is cut off its end, and the suggestion is chosen by the words that
occur in it. `Phrased` lists the messages there are, each with the suggestion that belongs to it,
and `phrased_of_refused` says that no verdict has any other pair, whatever text was taken in. Two
facts carry this: what is taken in stands between quotes, so that no message ends like a location
(`not_endsInLocation`), and the words that open a message decide before all that follow them
(`Phrased.suggestFix_eq`).
-/

namespace Advisor.Diagnosis

open Text Spot

/-! ## Locations at the end of a message -/

/-- A line and a column in digits, with a colon between them and brackets around them. -/
def IsLocation (cs : List Char) : Prop :=
  ∃ line column, line ≠ [] ∧ column ≠ [] ∧ (∀ c ∈ line, isDecimalDigit c = true) ∧
    (∀ c ∈ column, isDecimalDigit c = true) ∧ cs = '(' :: line ++ ':' :: column ++ [')']

/-- A message ends with a location, perhaps with a line feed behind it. -/
def EndsInLocation (message : List Char) : Prop :=
  ∃ front location behind, IsLocation location ∧ (behind = [] ∨ behind = ['\n']) ∧
    message = front ++ location ++ behind

/-- The digits in front of a text, if there are any. -/
theorem exists_digits_of_length_ne {cs : List Char}
    (h : (cs.dropWhile isDecimalDigit).length ≠ cs.length) :
    ∃ digits, digits ≠ [] ∧ (∀ c ∈ digits, isDecimalDigit c = true) ∧
      digits ++ cs.dropWhile isDecimalDigit = cs := by
  have hsplit : cs.takeWhile isDecimalDigit ++ cs.dropWhile isDecimalDigit = cs :=
    List.takeWhile_append_dropWhile
  refine ⟨cs.takeWhile isDecimalDigit, ?_, fun c hc => List.mem_takeWhile_imp hc, hsplit⟩
  intro hnil
  rw [hnil, List.nil_append] at hsplit
  exact h (congrArg List.length hsplit)

/-- What is read backwards as a location is one. -/
theorem exists_location_of_dropLocation {reversed rest : List Char}
    (h : dropLocation reversed = some rest) :
    ∃ location, IsLocation location ∧ location.reverse ++ rest = reversed := by
  revert h
  fun_cases dropLocation reversed with
  | case3 afterBracket afterColumn hcolumn afterColon hcolon afterLine hline front hfront =>
    rintro ⟨⟩
    obtain ⟨column, hcolumnne, hcolumndigits, hcolumnsplit⟩ := exists_digits_of_length_ne hcolumn
    obtain ⟨line, hlinene, hlinedigits, hlinesplit⟩ := exists_digits_of_length_ne hline
    refine ⟨'(' :: line.reverse ++ ':' :: column.reverse ++ [')'],
      ⟨line.reverse, column.reverse, ?_, ?_, ?_, ?_, rfl⟩, ?_⟩
    · simpa using hlinene
    · simpa using hcolumnne
    · simpa using hlinedigits
    · simpa using hcolumndigits
    · have hcolumnend : afterBracket.dropWhile isDecimalDigit = ':' :: afterColon := hcolon
      have hlineend : afterColon.dropWhile isDecimalDigit = '(' :: rest := hfront
      rw [← hcolumnsplit, hcolumnend, ← hlinesplit, hlineend]
      simp
  | case1 => rintro ⟨⟩
  | case2 => rintro ⟨⟩
  | case4 => rintro ⟨⟩
  | case5 => rintro ⟨⟩
  | case6 => rintro ⟨⟩

/-- **Nothing is removed from a message that does not end with a location.** -/
theorem stripLocation_of_not {message : List Char} (h : ¬ EndsInLocation message) :
    stripLocation message = message := by
  have hnone {reversed behind : List Char} (hbehind : behind = [] ∨ behind = ['\n'])
      (hmessage : message.reverse = behind ++ reversed) : dropLocation reversed = none := by
    cases hdrop : dropLocation reversed with
    | none => rfl
    | some rest =>
      obtain ⟨location, hlocation, hsplit⟩ := exists_location_of_dropLocation hdrop
      refine absurd ⟨rest.reverse, location, behind, hlocation, hbehind, ?_⟩ h
      rw [← List.reverse_reverse message, hmessage, ← hsplit]
      rcases hbehind with rfl | rfl <;> simp
  unfold stripLocation
  dsimp only
  split
  · rename_i rest hrest
    rw [hnone (.inr rfl) hrest]
    rfl
  · rw [@hnone message.reverse [] (.inl rfl) rfl]
    rfl

theorem getLast?_of_endsInLocation {message : List Char} (h : EndsInLocation message) :
    message.getLast? = some ')' ∨ message.getLast? = some '\n' := by
  obtain ⟨front, location, behind, ⟨line, column, -, -, -, -, rfl⟩, rfl | rfl, rfl⟩ := h
  · left
    rw [List.append_nil, ← List.append_assoc]
    exact List.getLast?_concat
  · right
    exact List.getLast?_concat

/-! ## Suggestions -/

/-- **The search for words** finds them wherever they stand. -/
theorem occursIn_iff {needle text : List Char} : occursIn needle text = true ↔ needle <:+: text := by
  induction text with
  | nil => rw [occursIn, List.isEmpty_iff, List.infix_nil]
  | cons c rest ih =>
    rw [occursIn, Bool.or_eq_true, ih, List.isPrefixOf_iff_prefix, List.infix_cons_iff]

/-- What is suggested where a token does not fit or is missing. -/
def bracketHint : String :=
  "You might be missing a bracket, parenthesis, or semicolon. Check the code around the error line."

/-- **The words that are looked for first** decide, whatever stands behind them. -/
theorem suggestFix_append {opening : String} (h : "Unexpected token".toList <+: opening.toList)
    (rest : String) : suggestFix (opening ++ rest) = bracketHint := by
  have hoccurs : occursIn "Unexpected token".toList (opening ++ rest).toList = true := by
    rw [occursIn_iff, String.toList_append]
    exact (h.trans (List.prefix_append _ _)).isInfix
  simp only [suggestFix, suggestions, List.find?_cons, hoccurs]
  rfl

/-! ## The messages there are -/

/-- **How problems are put**: a message, and the suggestion that belongs to it. -/
inductive Phrased (tree : SyntaxTree) : String → String → Prop
  | openString : Phrased tree "Unterminated string constant"
      "You have an unclosed string literal. Add a quote."
  | nameAfterNumber : Phrased tree "Identifier directly after number"
      "Variable names cannot start with numbers."
  /-- The kind of a node of the tree that the text lacks is quoted. -/
  | expected {s : Spot} : s.Within (root tree) → s.label.missing = true →
      Phrased tree ("Unexpected token, expected \"" ++ s.kind ++ "\"") bracketHint
  /-- A token is quoted in one line, and not the whole of it if it is long. -/
  | unexpected {token : String} : 1 ≤ token.length → token.length ≤ 20 →
      (∀ c ∈ token.toList, isLineEnd c = false) →
      Phrased tree ("Unexpected token \"" ++ token ++ "\"") bracketHint
  | bare : Phrased tree "Unexpected token" bracketHint

namespace Phrased

variable {tree : SyntaxTree} {message suggestion : String}

/-- **The suggestion is read off the message**, and what is quoted does not count. -/
theorem suggestFix_eq (h : Phrased tree message suggestion) : suggestFix message = suggestion := by
  cases h with
  | openString => decide
  | nameAfterNumber => decide
  | expected _ _ =>
    rw [String.append_assoc]
    exact suggestFix_append (by decide) _
  | unexpected _ _ _ =>
    rw [String.append_assoc]
    exact suggestFix_append (by decide) _
  | bare => exact @suggestFix_append "Unexpected token" (by decide) ""

/-- **No message ends with a location**: it ends with a quote, or with a word of its own. -/
theorem not_endsInLocation (h : Phrased tree message suggestion) :
    ¬ EndsInLocation message.toList := by
  have hquote (opening quoted : String) :
      (opening ++ quoted ++ "\"").toList.getLast? = some '"' := by
    rw [String.toList_append]
    exact List.getLast?_concat
  intro hends
  have hlast := getLast?_of_endsInLocation hends
  cases h with
  | openString => exact absurd hlast (by decide)
  | nameAfterNumber => exact absurd hlast (by decide)
  | expected _ _ =>
    rw [hquote] at hlast
    exact absurd hlast (by decide)
  | unexpected _ _ _ =>
    rw [hquote] at hlast
    exact absurd hlast (by decide)
  | bare => exact absurd hlast (by decide)

theorem suggestion_ne_default (h : Phrased tree message suggestion) :
    suggestion ≠ "Check your syntax." := by
  cases h <;> decide

end Phrased

/-! ## The message of a verdict -/

variable {tree : SyntaxTree}

/-- A token that does not fit, in one line and of 20 characters at most. -/
theorem phrased_unexpected {token : String} (hlength : token.length ≤ 20)
    (hline : ∀ c ∈ token.toList, isLineEnd c = false) :
    ∃ suggestion, Phrased tree (Problem.unexpected token).message suggestion := by
  by_cases hempty : token = ""
  · subst hempty
    exact ⟨_, .bare⟩
  · have hpos : 1 ≤ token.length := by
      rw [Nat.one_le_iff_ne_zero, ne_eq, String.length_eq_zero_iff]
      exact hempty
    have hmessage : (Problem.unexpected token).message = "Unexpected token \"" ++ token ++ "\"" :=
      if_neg (by simpa using hempty)
    rw [hmessage]
    exact ⟨_, .unexpected hpos hlength hline⟩

/-- What is wrong at an error node is put in one of these ways. -/
theorem phrased_problem {e : Spot} (he : e.Within (root tree)) (code : String) :
    ∃ suggestion, Phrased tree (problem e (root tree) code.toUTF8).message suggestion := by
  by_cases hstring : hasOpenString e = true
  · rw [problem, if_pos hstring]
    exact ⟨_, .openString⟩
  · rw [problem, if_neg hstring]
    by_cases hname : hasNameAfterNumber e (root tree) = true
    · rw [if_pos hname]
      exact ⟨_, .nameAfterNumber⟩
    · rw [if_neg hname]
      by_cases hmissing : e.label.missing = true
      · rw [if_pos hmissing]
        exact ⟨_, .expected he hmissing⟩
      · rw [if_neg hmissing]
        obtain ⟨hlength, hline⟩ := preview_short code (position e).label
        exact phrased_unexpected hlength hline

/-- A refusal for a problem that is put in one of these ways has the message and the suggestion. -/
theorem rejected_of_phrased {l : NodeLabel} {p : Problem} {suggestion : String}
    (h : Phrased tree p.message suggestion) (source : ByteArray) :
    ∃ d, (rejected source l p).errors = [d] ∧ d.message = p.message ∧ d.suggestion = suggestion := by
  have hmessage : String.ofList (stripLocation p.message.toList) = p.message := by
    rw [stripLocation_of_not h.not_endsInLocation, String.ofList_toList]
  refine ⟨_, rfl, hmessage, ?_⟩
  dsimp only
  rw [hmessage, h.suggestFix_eq]

/-- **The words of a diagnostic.** A text that is refused, whatever tree the parser makes of it, has
one diagnostic. Its message is one of those listed, with the suggestion that belongs to it: no
other, and not the one for messages that nobody knows. It does not end with a location, and taking
locations off leaves it as it is. -/
theorem phrased_of_refused {parse : String → SyntaxTree} {code : String} {markup : Bool}
    (hrefused : (validate parse code markup).valid = false) :
    ∃ d, (validate parse code markup).errors = [d] ∧
      Phrased (parse code) d.message d.suggestion ∧
      ¬ EndsInLocation d.message.toList ∧
      stripLocation d.message.toList = d.message.toList ∧
      d.suggestion ≠ "Check your syntax." ∧
      ∀ suggestion, Phrased (parse code) d.message suggestion → suggestion = d.suggestion := by
  have hcode : code ≠ "" := by
    rintro rfl
    cases hrefused
  rw [validate_of_ne_empty hcode] at hrefused ⊢
  obtain ⟨l, p, suggestion, hphrased, hverdict⟩ : ∃ l p suggestion,
      Phrased (parse code) (Problem.message p) suggestion ∧
        judge code.toUTF8 (parse code) markup = rejected code.toUTF8 l p := by
    have hruling := judge_ruling code.toUTF8 (parse code) markup
    generalize judge code.toUTF8 (parse code) markup = v at hruling hrefused ⊢
    cases hruling with
    | @markup m hm _ =>
      have hline : ∀ c ∈ "<".toList, isLineEnd c = false :=
        List.forall_mem_singleton.mpr (by decide)
      obtain ⟨suggestion, h⟩ := @phrased_unexpected (parse code) "<" (by decide) hline
      exact ⟨m.label, _, suggestion, h, rfl⟩
    | @error e he _ =>
      obtain ⟨suggestion, h⟩ := phrased_problem (within_error? he) code
      exact ⟨_, _, suggestion, h, rfl⟩
    | unplaced _ _ _ => exact ⟨_, _, _, .bare, rfl⟩
    | accepted _ _ => cases hrefused
  obtain ⟨d, hd, hmessage, rfl⟩ := rejected_of_phrased hphrased code.toUTF8
  rw [← hmessage] at hphrased
  refine ⟨d, hverdict ▸ hd, hphrased, hphrased.not_endsInLocation,
    stripLocation_of_not hphrased.not_endsInLocation, hphrased.suggestion_ne_default, ?_⟩
  intro suggestion h
  rw [← h.suggestFix_eq, hphrased.suggestFix_eq]

/-- A node that the text lacks, of a kind that reads like another message with a location. -/
def misleading : Spot :=
  ⟨.node ⟨"Unterminated string (1:2)", 1, 1, 0, 1, true, true⟩ [], ["program"]⟩

def misleadingTree : SyntaxTree := .node ⟨"program", 0, 1, 0, 0, false, true⟩ [misleading.tree]

theorem validate_misleading : validate (fun _ => misleadingTree) "x" true =
    rejected "x".toUTF8 (position misleading).label (.expected misleading.kind) := by
  have herror : error? misleadingTree = some misleading := by cbv
  have hstring : hasOpenString misleading = false := by cbv
  have hname : hasNameAfterNumber misleading (root misleadingTree) = false := by cbv
  have hmissing : misleading.label.missing = true := rfl
  rw [validate_of_ne_empty (by decide), judge_of_error herror (by simp [markup?])]
  simp only [problem, hstring, hname, hmissing, Bool.false_eq_true, if_false, if_true]

/-- The kind is quoted as a whole, and the suggestion is not the one for strings. -/
theorem phrased_of_misleading :
    (validate (fun _ => misleadingTree) "x" true).valid = false ∧
      ∃ d, (validate (fun _ => misleadingTree) "x" true).errors = [d] ∧
        d.message = "Unexpected token, expected \"Unterminated string (1:2)\"" ∧
        d.suggestion = bracketHint ∧ stripLocation d.message.toList = d.message.toList := by
  have hrefused : (validate (fun _ => misleadingTree) "x" true).valid = false := by
    rw [validate_misleading]
    rfl
  have hphrased : Phrased misleadingTree (Problem.expected misleading.kind).message bracketHint :=
    .expected (.deeper List.mem_cons_self .here) rfl
  obtain ⟨d, hd, hmessage, -⟩ := rejected_of_phrased hphrased "x".toUTF8
  obtain ⟨d', hd', -, -, hkept, -, honly⟩ := phrased_of_refused hrefused
  rw [validate_misleading, hd, List.singleton_inj] at hd'
  subst hd'
  refine ⟨hrefused, d, validate_misleading ▸ hd, hmessage, ?_, hkept⟩
  exact (honly bracketHint (hmessage ▸ hphrased)).symm

end Advisor.Diagnosis
