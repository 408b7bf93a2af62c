import Advisor.Proofs.Pattern
import Advisor.Proofs.TextScan
import Mathlib

/-!
# What the rules for weaknesses look for

Each rule seeks a pattern, and here the texts that its pattern stands for are spelled out without
patterns: `WeakHashCall`, `InlineSecret`, `BasicHeader`, `KeyLiteral`. A pattern that stands for one
character out of some (`OneOf`) is repeated over any run of them, whatever comes next, so that a
line fires a rule exactly if such a text stands anywhere in it (`fires_iff`).
-/

namespace Advisor

open Advisor.Grammar

/-! ## Sets of characters -/

namespace Grammar

namespace CharSet

theorem contains_ofRanges {rs : List (Nat × Nat)} {n : Nat} :
    (ofRanges rs).contains n = true ↔ ∃ r ∈ rs, r.1 ≤ n ∧ n ≤ r.2 := by
  simp [contains, ofRanges]

theorem contains_ofRanges_cons {lo hi n : Nat} {rs : List (Nat × Nat)} :
    (ofRanges ((lo, hi) :: rs)).contains n = true ↔
      lo ≤ n ∧ n ≤ hi ∨ (ofRanges rs).contains n = true := by
  rw [contains_ofRanges, List.exists_mem_cons_iff, contains_ofRanges]

theorem contains_ofRanges_nil {n : Nat} : (ofRanges []).contains n = true ↔ False := by
  simp [contains_ofRanges]

theorem contains_outside {rs : List (Nat × Nat)} {n : Nat} :
    (outside rs).contains n = true ↔ ∀ r ∈ rs, ¬ (r.1 ≤ n ∧ n ≤ r.2) := by
  simp [contains, outside]

end CharSet

namespace Lexeme

variable {a b : Lexeme} {u : List Char} {P : Char → Prop}

/-- The pattern stands for the single characters of a kind. -/
def OneOf (a : Lexeme) (P : Char → Prop) : Prop := ∀ u, Matches a u ↔ ∃ c, P c ∧ u = [c]

theorem oneOf_set {s : CharSet} (h : ∀ c : Char, s.contains c.toNat = true ↔ P c) :
    OneOf (.set s) P := by
  intro u
  simp only [matches_set_iff, h]

theorem le_and_le_iff_eq {c d : Char} : c.toNat ≤ d.toNat ∧ d.toNat ≤ c.toNat ↔ c = d := by
  rw [← Char.toNat_inj]
  omega

theorem oneOf_char (c : Char) : OneOf (.char c) (c = ·) := by
  refine oneOf_set fun d => ?_
  rw [CharSet.contains_ofRanges]
  simp only [List.mem_singleton, exists_eq_left, le_and_le_iff_eq]

theorem oneOf_oneOf (s : String) : OneOf (.oneOf s) (· ∈ s.toList) := by
  refine oneOf_set fun d => ?_
  simp only [CharSet.contains_ofRanges, List.mem_map, exists_exists_and_eq_and, le_and_le_iff_eq,
    exists_eq_right]

theorem oneOf_noneOf (s : String) : OneOf (.noneOf s) (· ∉ s.toList) := by
  refine oneOf_set fun d => ?_
  simp only [CharSet.contains_outside, List.forall_mem_map, le_and_le_iff_eq]
  exact ⟨fun h hd => h d hd rfl, fun h c hc heq => h (heq ▸ hc)⟩

/-! ## Patterns made of others -/

theorem matches_all_nil_iff : Matches (.all []) u ↔ u = [] := matches_empty_iff

theorem matches_all_cons_iff {rest : List Lexeme} :
    Matches (.all (a :: rest)) u ↔ ∃ v w, Matches a v ∧ u = v ++ w ∧ Matches (.all rest) w := by
  cases rest with
  | nil => simp [all, matches_empty_iff]
  | cons b rest => simp only [all, matches_seq_iff, and_comm]

theorem matches_any_cons_iff {rest : List Lexeme} :
    Matches (.any (a :: rest)) u ↔ Matches a u ∨ Matches (.any rest) u := by
  cases rest with
  | nil => simp [any, matches_set_iff, CharSet.contains_ofRanges]
  | cons b rest => exact matches_alt_iff

theorem matches_any_iff {as : List Lexeme} : Matches (.any as) u ↔ ∃ a ∈ as, Matches a u := by
  induction as with
  | nil => simp [any, matches_set_iff, CharSet.contains_ofRanges]
  | cons a rest ih => rw [matches_any_cons_iff, ih, List.exists_mem_cons_iff]

/-- Patterns of single characters, one after the other, match character by character. -/
theorem matches_all_map_iff {toLexeme : Char → Lexeme} {Fits : Char → Char → Prop}
    (h : ∀ c, OneOf (toLexeme c) (Fits c)) {cs : List Char} :
    Matches (.all (cs.map toLexeme)) u ↔ List.Forall₂ Fits cs u := by
  induction cs generalizing u with
  | nil => rw [List.map_nil, matches_all_nil_iff, List.forall₂_nil_left_iff]
  | cons c cs ih =>
    rw [List.map_cons, matches_all_cons_iff, List.forall₂_cons_left_iff]
    constructor
    · rintro ⟨v, w, hv, rfl, hw⟩
      obtain ⟨d, hd, rfl⟩ := (h c v).mp hv
      exact ⟨d, w, hd, ih.mp hw, rfl⟩
    · rintro ⟨d, w, hd, hw, rfl⟩
      exact ⟨[d], w, (h c [d]).mpr ⟨d, hd, rfl⟩, rfl, ih.mpr hw⟩

theorem matches_text_iff {s : String} : Matches (.text s) u ↔ u = s.toList := by
  rw [text, matches_all_map_iff oneOf_char]
  rw [List.forall₂_eq_eq_eq, eq_comm]

namespace OneOf

/-- A sequence that begins with one character of a kind. -/
theorem all_cons_iff (h : OneOf a P) {rest : List Lexeme} :
    Matches (.all (a :: rest)) u ↔ ∃ c w, P c ∧ u = c :: w ∧ Matches (.all rest) w := by
  rw [matches_all_cons_iff]
  constructor
  · rintro ⟨v, w, hv, rfl, hw⟩
    obtain ⟨c, hc, rfl⟩ := (h v).mp hv
    exact ⟨c, w, hc, rfl, hw⟩
  · rintro ⟨c, w, hc, rfl, hw⟩
    exact ⟨[c], w, (h [c]).mpr ⟨c, hc, rfl⟩, rfl, hw⟩

theorem star_iff (h : OneOf a P) : Matches (.star a) u ↔ ∀ c ∈ u, P c := by
  induction u with
  | nil => simp [Matches.done]
  | cons c u ih =>
    rw [List.forall_mem_cons, ← ih]
    constructor
    · intro hm
      -- a round is one character, so the first round is the first character
      obtain ⟨v, w, hv, hw, rfl⟩ := exists_round_of_matches_star hm
      obtain ⟨d, hd, heq⟩ := (h _).mp hv
      obtain ⟨rfl, rfl⟩ := List.cons.inj heq
      exact ⟨hd, hw⟩
    · rintro ⟨hc, hu⟩
      exact .again (u := [c]) ((h [c]).mpr ⟨c, hc, rfl⟩) hu

theorem many1_iff (h : OneOf a P) : Matches (.many1 a) u ↔ u ≠ [] ∧ ∀ c ∈ u, P c := by
  rw [many1, matches_seq_iff]
  constructor
  · rintro ⟨v, w, hv, hw, rfl⟩
    obtain ⟨c, hc, rfl⟩ := (h v).mp hv
    exact ⟨List.cons_ne_nil c w, List.forall_mem_cons.mpr ⟨hc, h.star_iff.mp hw⟩⟩
  · rintro ⟨hne, hu⟩
    obtain ⟨c, w, rfl⟩ := List.exists_cons_of_ne_nil hne
    obtain ⟨hc, hw⟩ := List.forall_mem_cons.mp hu
    exact ⟨[c], w, (h [c]).mpr ⟨c, hc, rfl⟩, h.star_iff.mpr hw, rfl⟩

theorem times_iff (h : OneOf a P) {n : Nat} :
    Matches (.times n a) u ↔ u.length = n ∧ ∀ c ∈ u, P c := by
  have hsucc (n : Nat) (u : List Char) : Matches (.times (n + 1) a) u ↔
      ∃ v w, Matches a v ∧ Matches (.times n a) w ∧ u = v ++ w := by
    cases n with
    | zero => simp [times, matches_empty_iff]
    | succ n => exact matches_seq_iff
  induction n generalizing u with
  | zero =>
    rw [times, matches_empty_iff, List.length_eq_zero_iff]
    simp +contextual
  | succ n ih =>
    rw [hsucc]
    constructor
    · rintro ⟨v, w, hv, hw, rfl⟩
      obtain ⟨c, hc, rfl⟩ := (h v).mp hv
      obtain ⟨hlength, hw⟩ := ih.mp hw
      exact ⟨congrArg (· + 1) hlength, List.forall_mem_cons.mpr ⟨hc, hw⟩⟩
    · rintro ⟨hlength, hu⟩
      obtain ⟨c, w, rfl⟩ := List.exists_cons_of_length_eq_add_one hlength
      obtain ⟨hc, hw⟩ := List.forall_mem_cons.mp hu
      exact ⟨[c], w, (h [c]).mpr ⟨c, hc, rfl⟩, ih.mpr ⟨Nat.succ.inj hlength, hw⟩, rfl⟩

theorem atLeast_iff (h : OneOf a P) {n : Nat} :
    Matches (Weakness.atLeast n a) u ↔ n ≤ u.length ∧ ∀ c ∈ u, P c := by
  rw [Weakness.atLeast, matches_seq_iff]
  constructor
  · rintro ⟨v, w, hv, hw, rfl⟩
    obtain ⟨hlength, hv⟩ := h.times_iff.mp hv
    rw [List.length_append]
    exact ⟨by omega, List.forall_mem_append.mpr ⟨hv, h.star_iff.mp hw⟩⟩
  · rintro ⟨hlength, hu⟩
    refine ⟨u.take n, u.drop n, h.times_iff.mpr ⟨?_, ?_⟩, h.star_iff.mpr ?_, ?_⟩
    · exact List.length_take_of_le hlength
    · exact fun c hc => hu c (List.mem_of_mem_take hc)
    · exact fun c hc => hu c (List.mem_of_mem_drop hc)
    · exact (List.take_append_drop n u).symm

end OneOf

end Lexeme

end Grammar

namespace Weakness

open Lexeme

variable {u : List Char}

/-! ## Characters -/

/-- A quote of either kind. -/
def IsQuote (c : Char) : Prop := c = '\'' ∨ c = '"'

/-- White space as scripts have it. -/
def IsScriptBlank (c : Char) : Prop :=
  c ∈ ['\t', '\n', '\x0b', '\x0c', '\r', ' ', '\u00a0', '\u1680', '\u2028', '\u2029', '\u202f',
    '\u205f', '\u3000', '\ufeff'] ∨ '\u2000' ≤ c ∧ c ≤ '\u200a'

/-- A letter or a digit of ASCII, or the underscore. -/
def IsWordChar (c : Char) : Prop :=
  'a' ≤ c ∧ c ≤ 'z' ∨ 'A' ≤ c ∧ c ≤ 'Z' ∨ '0' ≤ c ∧ c ≤ '9' ∨ c = '_'

theorem char_le_iff {c d : Char} : c ≤ d ↔ c.toNat ≤ d.toNat := Iff.rfl

theorem oneOf_quote : OneOf quote IsQuote := by
  have hquote : ∀ c, c ∈ "'\"".toList ↔ IsQuote c := by simp [IsQuote]
  exact fun u => (oneOf_oneOf "'\"" u).trans (by simp only [hquote])

theorem oneOf_blank : OneOf blank (Text.isBlank · = true) := by
  refine oneOf_set fun c => ?_
  simp only [CharSet.contains_ofRanges_cons, CharSet.contains_ofRanges_nil, or_false,
    Text.isBlank, Bool.or_eq_true, Bool.and_eq_true, decide_eq_true_eq, beq_iff_eq]
  omega

theorem oneOf_scriptBlank : OneOf scriptBlank IsScriptBlank := by
  refine oneOf_set fun c => ?_
  simp only [CharSet.contains_ofRanges_cons, CharSet.contains_ofRanges_nil, or_false,
    IsScriptBlank, char_le_iff, List.mem_cons, List.not_mem_nil, ← Char.toNat_inj, Char.reduceToNat]
  omega

theorem oneOf_wordChar : OneOf wordChar IsWordChar := by
  refine oneOf_set fun c => ?_
  simp only [wordRanges, CharSet.contains_ofRanges_cons, CharSet.contains_ofRanges_nil, or_false,
    IsWordChar, char_le_iff, ← Char.toNat_inj, Char.reduceToNat]
  omega

theorem oneOf_keyChar : OneOf keyChar fun c => IsWordChar c ∨ c = '-' := by
  refine oneOf_set fun c => ?_
  simp only [wordRanges, CharSet.contains_ofRanges_cons, CharSet.contains_ofRanges_nil, or_false,
    IsWordChar, char_le_iff, ← Char.toNat_inj, Char.reduceToNat]
  omega

/-! ## Letters of either case -/

/-- The same text, up to the case of the letters of ASCII. -/
def SameLetters (word : String) (u : List Char) : Prop :=
  word.toList.map Char.toLower = u.map Char.toLower

instance (word : String) (u : List Char) : Decidable (SameLetters word u) :=
  inferInstanceAs (Decidable (_ = _))

theorem toLower_eq_iff {c d : Char} : c.toLower = d.toLower ↔ c.toLower = d ∨ c.toUpper = d := by
  constructor
  · intro h
    -- a letter is small or it is its own capital
    by_cases hd : d.isLower = true
    · rw [h, Char.toLower_eq_of_not_isUpper (Char.not_isUpper_of_isLower hd)]
      exact .inl rfl
    · right
      calc c.toUpper = c.toLower.toUpper := (Char.toUpper_toLower_eq_toUpper c).symm
        _ = d.toLower.toUpper := by rw [h]
        _ = d.toUpper := Char.toUpper_toLower_eq_toUpper d
        _ = d := Char.toUpper_eq_of_not_isLower hd
  · rintro (rfl | rfl)
    · exact (Char.toLower_toLower_eq_toLower c).symm
    · exact (Char.toLower_toUpper_eq_toLower c).symm

theorem oneOf_caseless (c : Char) : OneOf (caseless c) (c.toLower = ·.toLower) := by
  refine oneOf_set fun d => ?_
  rw [CharSet.contains_ofRanges, toLower_eq_iff]
  simp only [List.mem_cons, List.not_mem_nil, or_false, exists_eq_or_imp, exists_eq_left,
    le_and_le_iff_eq]

theorem matches_caselessText_iff {word : String} :
    Matches (caselessText word) u ↔ SameLetters word u := by
  rw [caselessText, matches_all_map_iff oneOf_caseless, SameLetters, ← List.forall₂_eq_eq_eq,
    List.forall₂_map_left_iff, List.forall₂_map_right_iff]

/-! ## The texts that the rules look for -/

/-- `crypto.createHash("md5")` or the same with `sha1`, in any case and with any quotes. -/
def WeakHashCall (u : List Char) : Prop :=
  ∃ call q name q', SameLetters "crypto.createHash(" call ∧ IsQuote q ∧
    (SameLetters "md5" name ∨ SameLetters "sha1" name) ∧ IsQuote q' ∧
    u = call ++ q :: name ++ [q', ')']

/-- `jwt.sign(payload, "secret")`: the last argument is a word in quotes. -/
def InlineSecret (u : List Char) : Prop :=
  ∃ space argument space' q secret q', (∀ c ∈ space, Text.isBlank c = true) ∧
    argument ≠ [] ∧ ',' ∉ argument ∧ (∀ c ∈ space', Text.isBlank c = true) ∧ IsQuote q ∧
    secret ≠ [] ∧ (∀ c ∈ secret, IsWordChar c) ∧ IsQuote q' ∧
    u = "jwt.sign".toList ++ space ++ '(' :: argument ++ ',' :: space' ++ q :: secret ++ [q', ')']

/-- `Authorization: "Basic `, with white space behind it. -/
def BasicHeader (u : List Char) : Prop :=
  ∃ space q space', (∀ c ∈ space, Text.isBlank c = true) ∧ IsQuote q ∧ space' ≠ [] ∧
    (∀ c ∈ space', Text.isBlank c = true) ∧
    u = "Authorization:".toList ++ space ++ q :: "Basic".toList ++ space'

/-- `api_key = "…"` or the like, with at least twenty characters between the quotes. -/
def KeyLiteral (u : List Char) : Prop :=
  ∃ name space sign space' q key q',
    (∃ word ∈ ["api_key", "apikey", "secret_key", "auth_token"], SameLetters word name) ∧
    (∀ c ∈ space, IsScriptBlank c) ∧ (sign = ':' ∨ sign = '=') ∧ (∀ c ∈ space', IsScriptBlank c) ∧
    IsQuote q ∧ 20 ≤ key.length ∧ (∀ c ∈ key, IsWordChar c ∨ c = '-') ∧ IsQuote q' ∧
    u = name ++ space ++ sign :: space' ++ q :: key ++ [q']

theorem matches_weakHash_iff : Matches weakHash u ↔ WeakHashCall u := by
  simp only [weakHash, oneOf_quote.all_cons_iff, (oneOf_char _).all_cons_iff, matches_all_cons_iff,
    matches_all_nil_iff, matches_caselessText_iff, matches_alt_iff]
  constructor
  · rintro ⟨call, _, hcall, rfl, q, _, hq, rfl, name, _, hname, rfl, q', _, hq', rfl,
      _, _, rfl, rfl, rfl⟩
    exact ⟨call, q, name, q', hcall, hq, hname, hq', by simp⟩
  · rintro ⟨call, q, name, q', hcall, hq, hname, hq', rfl⟩
    refine ⟨call, _, hcall, ?_, q, _, hq, rfl, name, _, hname, rfl, q', _, hq', rfl,
      _, _, rfl, rfl, rfl⟩
    simp

theorem matches_inlineSecret_iff : Matches inlineSecret u ↔ InlineSecret u := by
  have hcomma : ∀ argument : List Char, (∀ c ∈ argument, c ∉ ",".toList) ↔ ',' ∉ argument := by
    intro argument
    simp only [show ",".toList = [','] from rfl, List.mem_singleton]
    exact ⟨fun h hmem => h _ hmem rfl, fun h c hc heq => h (heq ▸ hc)⟩
  simp only [inlineSecret, oneOf_quote.all_cons_iff, (oneOf_char _).all_cons_iff,
    matches_all_cons_iff, matches_all_nil_iff, matches_text_iff, oneOf_blank.star_iff,
    (oneOf_noneOf _).many1_iff, oneOf_wordChar.many1_iff, hcomma]
  constructor
  -- the pieces come in their order, each with what is left behind it
  · rintro ⟨_, _, rfl, rfl, space, _, hspace, rfl, _, _, rfl, rfl, argument, _, ⟨hne, hargument⟩,
      rfl, _, _, rfl, rfl, space', _, hspace', rfl, q, _, hq, rfl, secret, _, ⟨hne', hsecret⟩, rfl,
      q', _, hq', rfl, _, _, rfl, rfl, rfl⟩
    exact ⟨space, argument, space', q, secret, q', hspace, hne, hargument, hspace', hq, hne',
      hsecret, hq', by simp⟩
  · rintro ⟨space, argument, space', q, secret, q', hspace, hne, hargument, hspace', hq, hne',
      hsecret, hq', rfl⟩
    refine ⟨_, _, rfl, ?_, space, _, hspace, rfl, _, _, rfl, rfl, argument, _, ⟨hne, hargument⟩,
      rfl, _, _, rfl, rfl, space', _, hspace', rfl, q, _, hq, rfl, secret, _, ⟨hne', hsecret⟩, rfl,
      q', _, hq', rfl, _, _, rfl, rfl, rfl⟩
    simp

theorem matches_basicHeader_iff : Matches basicHeader u ↔ BasicHeader u := by
  simp only [basicHeader, oneOf_quote.all_cons_iff, matches_all_cons_iff, matches_all_nil_iff,
    matches_text_iff, oneOf_blank.star_iff, oneOf_blank.many1_iff]
  constructor
  · rintro ⟨_, _, rfl, rfl, space, _, hspace, rfl, q, _, hq, rfl, _, _, rfl, rfl, space', _,
      ⟨hne, hspace'⟩, rfl, rfl⟩
    exact ⟨space, q, space', hspace, hq, hne, hspace', by simp⟩
  · rintro ⟨space, q, space', hspace, hq, hne, hspace', rfl⟩
    refine ⟨_, _, rfl, ?_, space, _, hspace, rfl, q, _, hq, rfl, _, _, rfl, rfl, space', _,
      ⟨hne, hspace'⟩, rfl, rfl⟩
    simp

theorem matches_keyLiteral_iff : Matches keyLiteral u ↔ KeyLiteral u := by
  have hsign : ∀ c, c ∈ ":=".toList ↔ c = ':' ∨ c = '=' := by simp
  have hname : ∀ name, (∃ a ∈ ["api_key", "apikey", "secret_key", "auth_token"].map caselessText,
      Matches a name) ↔ ∃ word ∈ ["api_key", "apikey", "secret_key", "auth_token"],
      SameLetters word name := by
    intro name
    simp only [List.mem_map, exists_exists_and_eq_and, matches_caselessText_iff]
  simp only [keyLiteral, oneOf_quote.all_cons_iff, (oneOf_oneOf _).all_cons_iff, matches_any_iff,
    matches_all_cons_iff, matches_all_nil_iff, oneOf_scriptBlank.star_iff,
    oneOf_keyChar.atLeast_iff, hsign, hname]
  constructor
  · rintro ⟨name, _, hname, rfl, space, _, hspace, rfl, sign, _, hsign, rfl, space', _, hspace',
      rfl, q, _, hq, rfl, key, _, ⟨hlength, hkey⟩, rfl, q', _, hq', rfl, rfl⟩
    exact ⟨name, space, sign, space', q, key, q', hname, hspace, hsign, hspace', hq, hlength, hkey,
      hq', by simp⟩
  · rintro ⟨name, space, sign, space', q, key, q', hname, hspace, hsign, hspace', hq, hlength, hkey,
      hq', rfl⟩
    refine ⟨name, _, hname, ?_, space, _, hspace, rfl, sign, _, hsign, rfl, space', _, hspace', rfl,
      q, _, hq, rfl, key, _, ⟨hlength, hkey⟩, rfl, q', _, hq', rfl, rfl⟩
    simp

/-! ## Firing -/

/-- A rule reports a text. -/
def Fires (id : String) (source : String) : Prop := ∃ f ∈ findings rules source, f.rule = id

variable {line : String}

/-- A text of one line is searched as a whole. -/
theorem findings_of_line (h : '\n' ∉ line.toList) :
    findings rules line =
      inLine (fun r line => r.pattern.occursIn line) rules 1 line.toList := by
  have hsplit : Text.splitOn '\n' line.toList = [line.toList] := by
    rw [Text.splitOn_eq_list_splitOn, List.splitOn]
    refine List.splitOnP_eq_singleton fun c hc => ?_
    rw [beq_eq_false_iff_ne]
    rintro rfl
    exact h hc
  rw [findings, findingsBy, hsplit]
  simp

theorem fires_iff_exists_rule (h : '\n' ∉ line.toList) (id : String) :
    Fires id line ↔ ∃ r ∈ rules, r.id = id ∧ r.pattern.FoundIn line.toList := by
  simp only [Fires, findings_of_line h, inLine, List.mem_map, List.mem_filter, occursIn_iff]
  constructor
  · rintro ⟨_, ⟨r, ⟨hr, hfound⟩, rfl⟩, hid⟩
    exact ⟨r, hr, hid, hfound⟩
  · rintro ⟨r, hr, hid, hfound⟩
    exact ⟨_, ⟨r, ⟨hr, hfound⟩, rfl⟩, hid⟩

/-- The rules have different names, so that each fires for its own pattern alone. -/
theorem fires_iff_foundIn (h : '\n' ∉ line.toList) (rule : WeaknessRule) (hrule : rule ∈ rules) :
    Fires rule.id line ↔ rule.pattern.FoundIn line.toList := by
  have hids : (rules.map (·.id)).Nodup := by decide
  rw [fires_iff_exists_rule h]
  constructor
  · rintro ⟨r, hr, hid, hfound⟩
    exact List.inj_on_of_nodup_map hids hr hrule hid ▸ hfound
  · exact fun hfound => ⟨rule, hrule, rfl, hfound⟩

/-- What fires in a line fires in every line around it. -/
theorem fires_append {before after id : String} (hbefore : '\n' ∉ before.toList)
    (h : '\n' ∉ line.toList) (hafter : '\n' ∉ after.toList) (hfires : Fires id line) :
    Fires id (before ++ line ++ after) := by
  have hlong : (before ++ line ++ after).toList = before.toList ++ line.toList ++ after.toList := by
    rw [String.toList_append, String.toList_append]
  have hnew : '\n' ∉ (before ++ line ++ after).toList := by
    simp only [hlong, List.mem_append, hbefore, h, hafter, or_false, not_false_eq_true]
  obtain ⟨r, hr, hid, u, hu, hmatch⟩ := (fires_iff_exists_rule h id).mp hfires
  refine (fires_iff_exists_rule hnew id).mpr ⟨r, hr, hid, u, hu.trans ?_, hmatch⟩
  rw [hlong]
  exact List.infix_append ..

/-- **A line fires a rule exactly if a text of the rule stands in it**, at any place; and then so
does every longer line. -/
theorem fires_iff (line : String) (h : '\n' ∉ line.toList) :
    (Fires "SG101" line ↔ ∃ u, u <:+: line.toList ∧ WeakHashCall u) ∧
    (Fires "SG102" line ↔ ∃ u, u <:+: line.toList ∧ InlineSecret u) ∧
    (Fires "SG103" line ↔ ∃ u, u <:+: line.toList ∧ BasicHeader u) ∧
    (Fires "SG104" line ↔ "Math.random()".toList <:+: line.toList) ∧
    (Fires "SG105" line ↔ ∃ u, u <:+: line.toList ∧ KeyLiteral u) ∧
    ∀ id before after : String, '\n' ∉ before.toList → '\n' ∉ after.toList → Fires id line →
      Fires id (before ++ line ++ after) := by
  refine ⟨?_, ?_, ?_, ?_, ?_, fun id before after hbefore hafter => fires_append hbefore h hafter⟩
  · have hfires : Fires "SG101" line ↔ weakHash.FoundIn line.toList :=
      fires_iff_foundIn h rules[0] (List.getElem_mem _)
    simpa only [FoundIn, matches_weakHash_iff] using hfires
  · have hfires : Fires "SG102" line ↔ inlineSecret.FoundIn line.toList :=
      fires_iff_foundIn h rules[1] (List.getElem_mem _)
    simpa only [FoundIn, matches_inlineSecret_iff] using hfires
  · have hfires : Fires "SG103" line ↔ basicHeader.FoundIn line.toList :=
      fires_iff_foundIn h rules[2] (List.getElem_mem _)
    simpa only [FoundIn, matches_basicHeader_iff] using hfires
  · have hfires : Fires "SG104" line ↔ weakRandom.FoundIn line.toList :=
      fires_iff_foundIn h rules[3] (List.getElem_mem _)
    simpa only [FoundIn, weakRandom, matches_text_iff, exists_eq_right] using hfires
  · have hfires : Fires "SG105" line ↔ keyLiteral.FoundIn line.toList :=
      fires_iff_foundIn h rules[4] (List.getElem_mem _)
    simpa only [FoundIn, matches_keyLiteral_iff] using hfires

/-- The second of two candidates is found, whatever became of the first. -/
theorem fires_of_second_candidate :
    Fires "SG105" "api_key=apiKey = 'aaaaaaaaaaaaaaaaaaaa\";" ∧
    Fires "SG105" ("'" ++ "api_key=apiKey = 'aaaaaaaaaaaaaaaaaaaa\";" ++ "'") := by
  have hfires := fires_iff "api_key=apiKey = 'aaaaaaaaaaaaaaaaaaaa\";" (by decide)
  have hkey : KeyLiteral "apiKey = 'aaaaaaaaaaaaaaaaaaaa\"".toList := by
    refine ⟨"apiKey".toList, [' '], '=', [' '], '\'', List.replicate 20 'a', '"',
      ⟨"apikey", by decide, by decide⟩, ?_, .inr rfl, ?_, .inl rfl, by decide, ?_, .inr rfl,
      by decide⟩
    · exact List.forall_mem_singleton.mpr (.inl (by decide))
    · exact List.forall_mem_singleton.mpr (.inl (by decide))
    · intro c hc
      rw [List.eq_of_mem_replicate hc]
      exact .inl (.inl (by decide))
  have hline : Fires "SG105" "api_key=apiKey = 'aaaaaaaaaaaaaaaaaaaa\";" :=
    hfires.2.2.2.2.1.mpr ⟨_, ⟨"api_key=".toList, ";".toList, by decide⟩, hkey⟩
  exact ⟨hline, hfires.2.2.2.2.2 _ "'" "'" (by decide) (by decide) hline⟩

end Weakness

end Advisor
