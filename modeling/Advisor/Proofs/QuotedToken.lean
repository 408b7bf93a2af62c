import Advisor.Proofs.ScriptRows
import Advisor.Proofs.TextScan
import Advisor.Proofs.Utf8
import Advisor.Proofs.Verdict
import Mathlib

/-!
# The token that a diagnostic quotes

A message quotes the token at which the parser stumbled, and the diagnostic points to a place. Both
are cut from the bytes of the text on their own: the token is decoded, stripped, cut at line ends
and shortened, and the column counts the characters that the bytes before it decode to.
`quoted_at_place` says that they fit: in a tree that is anchored in the text, the text has the
quoted token at the place.
-/

namespace Advisor

/-! ## Bytes between characters -/

namespace Text

/-- How many bytes a text takes. -/
def byteSize (cs : List Char) : Nat := (cs.map Char.utf8Size).sum

theorem byteSize_append (cs ds : List Char) : byteSize (cs ++ ds) = byteSize cs + byteSize ds := by
  rw [byteSize, List.map_append, List.sum_append]
  rfl

theorem length_toList_utf8Encode (cs : List Char) : cs.utf8Encode.toList.length = byteSize cs := by
  rw [toList_utf8Encode, List.length_flatMap, byteSize]
  simp only [String.length_utf8EncodeChar]

theorem toList_utf8Encode_append (cs ds : List Char) :
    (cs ++ ds).utf8Encode.toList = cs.utf8Encode.toList ++ ds.utf8Encode.toList := by
  simp only [toList_utf8Encode, List.flatMap_append]

theorem toList_sliceBytes (bytes : ByteArray) (lo hi : Nat) :
    (sliceBytes bytes lo hi).toList = (bytes.toList.take hi).drop lo := by
  have hnat (i : Nat) : (if (i : Int) < 0 then (i : Int) + bytes.size else i).toNat = i := by
    rw [if_neg (Int.not_lt.mpr (Int.natCast_nonneg i)), Int.toNat_natCast]
  have hsize : bytes.data.toList.length = bytes.size := Array.length_toList
  simp only [sliceBytes, hnat]
  rw [toList_eq_data, toList_eq_data, ByteArray.data_extract, Array.toList_extract,
    List.extract_eq_take_drop, List.drop_take]
  by_cases hlo : lo ≤ bytes.size
  · rw [Nat.min_eq_left hlo]
    by_cases hhi : hi ≤ bytes.size
    · rw [Nat.min_eq_left hhi]
    · -- a bound beyond the last byte takes all that is left
      have hleft : (bytes.data.toList.drop lo).length = bytes.size - lo := by
        rw [List.length_drop, hsize]
      rw [Nat.min_eq_right (by omega), List.take_of_length_le (by omega),
        List.take_of_length_le (by omega)]
  · rw [List.drop_eq_nil_of_le (by omega), List.drop_eq_nil_of_le (by omega), List.take_nil,
      List.take_nil]

/-- **Between two characters** nothing is cut apart: the bytes from the end of one beginning of a
text to the end of another are read as what the second has more. -/
theorem decode_sliceBytes {code : String} {p q : List Char} (hp : p <+: code.toList)
    (hq : q <+: code.toList) :
    decode (sliceBytes code.toUTF8 (byteSize p) (byteSize q)).toList = q.drop p.length := by
  obtain ⟨rest, hrest⟩ := hq
  have hbytes : code.toUTF8.toList = q.utf8Encode.toList ++ rest.utf8Encode.toList := by
    rw [String.toUTF8_eq_toByteArray, ← String.utf8Encode_toList, ← hrest, toList_utf8Encode_append]
  rw [toList_sliceBytes, hbytes, List.take_left' (length_toList_utf8Encode q)]
  rcases List.prefix_or_prefix_of_prefix hp ⟨rest, hrest⟩ with ⟨more, rfl⟩ | ⟨more, rfl⟩
  · rw [toList_utf8Encode_append, List.drop_left' (length_toList_utf8Encode p), decode_utf8Encode,
      List.drop_left]
  · have hle : q.utf8Encode.toList.length ≤ byteSize (q ++ more) := by
      rw [length_toList_utf8Encode, byteSize_append]
      omega
    rw [List.drop_eq_nil_of_le hle, List.drop_eq_nil_of_le (by simp)]
    simp [decode, decode.go]

end Text

/-! ## Lines -/

/-- The first piece of a text that is cut is what stands before the first separator. -/
theorem exists_splitOn_eq (sep : Char) (cs : List Char) :
    ∃ more, cs.splitOn sep = cs.takeWhile (· ≠ sep) :: more := by
  induction cs with
  | nil => exact ⟨[], rfl⟩
  | cons c cs ih =>
    rw [List.splitOn_cons_eq_if_modifyHead]
    by_cases hc : c = sep
    · exact ⟨cs.splitOn sep, by simp [hc]⟩
    · obtain ⟨more, hmore⟩ := ih
      exact ⟨more, by simp [hc, hmore]⟩

/-- **The line at a place**: behind so many line feeds stands what is left of the line. -/
theorem mem_numberedLines_of_append {code : String} {lines last after : List Char}
    (hcode : code.toList = lines ++ last ++ after)
    (hlines : lines = [] ∨ lines.getLast? = some '\n') (hlast : '\n' ∉ last) :
    (last ++ after.takeWhile (· ≠ '\n'), lines.count '\n' + 1) ∈ numberedLines code := by
  have hpiece : ∃ more, (last ++ after).splitOn '\n' =
      (last ++ after.takeWhile (· ≠ '\n')) :: more := by
    obtain ⟨more, hmore⟩ := exists_splitOn_eq '\n' (last ++ after)
    refine ⟨more, ?_⟩
    rw [hmore, List.takeWhile_append_of_pos]
    intro c hc
    exact decide_eq_true (ne_of_mem_of_not_mem hc hlast)
  obtain ⟨more, hmore⟩ := hpiece
  rw [numberedLines, List.mk_mem_zipIdx_iff_le_and_getElem?_sub, hcode, List.append_assoc]
  refine ⟨Nat.le_add_left 1 _, ?_⟩
  rw [Nat.add_sub_cancel]
  rcases hlines with rfl | hlines
  · rw [List.nil_append, hmore]
    rfl
  · obtain ⟨front, rfl⟩ := List.getLast?_eq_some_iff.mp hlines
    have hlength : (front.splitOn '\n').length = (front ++ ['\n']).count '\n' := by
      rw [← Text.splitOn_eq_list_splitOn, Text.length_splitOn]
      simp
    rw [List.append_assoc, List.singleton_append, List.splitOn_append_cons_self, hmore, ← hlength,
      List.getElem?_append_right (Nat.le_refl _), Nat.sub_self]
    rfl

namespace Diagnosis

open Text

/-! ## Anchored trees -/

/-- A node starts and ends between characters of a text, and its start is given by the line feeds
before it and the bytes behind the last of them. -/
structure Anchored (code : String) (l : NodeLabel) : Prop where
  start : ∃ lines last, lines ++ last <+: code.toList ∧
    (lines = [] ∨ lines.getLast? = some '\n') ∧ '\n' ∉ last ∧
    l.startByte = byteSize (lines ++ last) ∧ l.row = lines.count '\n' ∧
    l.byteColumn = byteSize last
  stop : ∃ before, before <+: code.toList ∧ l.endByte = byteSize before

/-- The text of a node. -/
def textOf (code : String) (l : NodeLabel) : List Char :=
  decode (sliceBytes code.toUTF8 l.startByte l.endByte).toList

theorem textOf_eq_drop {code : String} {l : NodeLabel} {p q : List Char}
    (hp : p <+: code.toList) (hq : q <+: code.toList) (hstart : l.startByte = byteSize p)
    (hstop : l.endByte = byteSize q) : textOf code l = q.drop p.length := by
  rw [textOf, hstart, hstop, decode_sliceBytes hp hq]

/-! ## Messages -/

/-- Nothing is removed from a message that ends with a quote. -/
theorem stripLocation_quote (message : List Char) :
    stripLocation (message ++ ['"']) = message ++ ['"'] := by
  simp [stripLocation, dropLocation]

theorem stripLocation_quoted {opening : String} {token : String} :
    stripLocation (opening ++ token ++ "\"").toList = opening.toList ++ token.toList ++ ['"'] := by
  rw [String.toList_append, String.toList_append]
  exact stripLocation_quote _

/-- **Only an unexpected token is quoted in this way**, and it is not empty. -/
theorem eq_unexpected_of_message {p : Problem} {token : String}
    (h : String.ofList (stripLocation p.message.toList) = "Unexpected token \"" ++ token ++ "\"") :
    p = .unexpected token ∧ token ≠ "" := by
  have hchars : stripLocation p.message.toList =
      "Unexpected token \"".toList ++ token.toList ++ ['"'] := by
    rw [← String.toList_ofList (l := stripLocation p.message.toList), h, String.toList_append,
      String.toList_append]
    rfl
  -- the other messages part from this one within 17 characters
  have hopening : (stripLocation p.message.toList).take 17 = "Unexpected token ".toList := by
    rw [hchars]
    rfl
  cases p with
  | openString => exact absurd hopening (by decide)
  | nameAfterNumber => exact absurd hopening (by decide)
  | expected kind =>
    have hother : ("Unexpected token, expected \"".toList ++ kind.toList ++ ['"']).take 17 =
        "Unexpected token,".toList := rfl
    have hmessage : (Problem.expected kind).message =
        "Unexpected token, expected \"" ++ kind ++ "\"" := rfl
    rw [hmessage, stripLocation_quoted, hother] at hopening
    exact absurd hopening (by decide)
  | unexpected shown =>
    by_cases hempty : shown = ""
    · subst hempty
      exact absurd hopening (by decide)
    · have hmessage : (Problem.unexpected shown).message =
          "Unexpected token \"" ++ shown ++ "\"" := if_neg (by simpa using hempty)
      rw [hmessage, stripLocation_quoted] at hchars
      have htoken := List.append_cancel_left (List.append_cancel_right hchars)
      obtain rfl := String.toList_injective htoken
      exact ⟨rfl, hempty⟩

/-! ## Tokens -/

theorem strip_prefix_self {text : List Char} (h : ∀ c ∈ text.head?, isBlank c = false) :
    strip text <+: text := by
  have hdrop : text.dropWhile isBlank = text := by
    cases text with
    | nil => rfl
    | cons c text => exact List.dropWhile_cons_of_neg (by simp [h c rfl])
  rw [strip, hdrop]
  exact List.rdropWhile_prefix isBlank text

theorem preview_eq (code : String) (l : NodeLabel) : preview code.toUTF8 l =
    String.ofList ((firstLine (strip (textOf code l))).take previewLength) := rfl

/-- **What is shown of a token** is short and stays in one line. -/
theorem preview_short (code : String) (l : NodeLabel) :
    (preview code.toUTF8 l).length ≤ previewLength ∧
      ∀ c ∈ (preview code.toUTF8 l).toList, isLineEnd c = false := by
  rw [preview_eq, String.length_ofList, String.toList_ofList]
  refine ⟨List.length_take_le _ _, fun c hc => ?_⟩
  have hline := List.mem_takeWhile_imp (List.mem_of_mem_take hc)
  simpa using hline

/-- A token that does not start with a blank starts with what is shown of it. -/
theorem preview_prefix_textOf {code : String} {l : NodeLabel}
    (h : ∀ c ∈ (textOf code l).head?, isBlank c = false) :
    (preview code.toUTF8 l).toList <+: textOf code l := by
  rw [preview_eq, String.toList_ofList]
  calc (firstLine (strip (textOf code l))).take previewLength
      <+: firstLine (strip (textOf code l)) := List.take_prefix _ _
    _ <+: strip (textOf code l) := List.takeWhile_prefix _
    _ <+: textOf code l := strip_prefix_self h

/-! ## The error that is told -/

variable {tree : SyntaxTree} {e : Spot}

/-- A text is refused for its error unless markup starts before it. -/
theorem judge_of_error {source : ByteArray} {markup : Bool} (herror : error? tree = some e)
    (hfirst : ∀ m, markup? tree markup = some m → e.label.startByte ≤ m.label.startByte) :
    judge source tree markup =
      rejected source (position e).label (problem e (Spot.root tree) source) := by
  have hruling := judge_ruling source tree markup
  generalize judge source tree markup = v at hruling ⊢
  cases hruling with
  | markup hm hbefore => exact absurd (hbefore e herror) (Nat.not_lt.mpr (hfirst _ hm))
  | error he _ => rw [Option.some.inj (he.symm.trans herror)]
  | unplaced _ hnone _ => cases herror.symm.trans hnone
  | accepted hmark _ => cases (hasError_of_error? herror).symm.trans hmark

/-- The token that is quoted is the one at the node that the error is reported at. -/
theorem eq_preview_of_problem {root : Spot} {source : ByteArray} {token : String}
    (h : problem e root source = .unexpected token) :
    token = preview source (position e).label := by
  unfold problem at h
  split at h
  · cases h
  · split at h
    · cases h
    · split at h
      · cases h
      · exact (Problem.unexpected.inj h).symm

/-! ## The place -/

/-- The column counts the characters between the start of the line and the node. -/
theorem length_decode_column {code : String} {lines last : List Char} {l : NodeLabel}
    (hbegin : lines ++ last <+: code.toList) (hstart : l.startByte = byteSize (lines ++ last))
    (hcolumn : l.byteColumn = byteSize last) :
    (decode (sliceBytes code.toUTF8 ((l.startByte : Int) - l.byteColumn)
      l.startByte).toList).length = last.length := by
  have hline : (l.startByte : Int) - l.byteColumn = byteSize lines := by
    rw [hstart, hcolumn, byteSize_append]
    omega
  have hlines : lines <+: code.toList := (List.prefix_append _ _).trans hbegin
  rw [hline, hstart, decode_sliceBytes hlines hbegin, List.drop_left]

/-- **A node is in its line at its column**: what the text of the node starts with, if it holds no
line feed, stands in the line of the node behind the characters that the column counts. -/
theorem Anchored.exists_line {code : String} {l : NodeLabel} (h : Anchored code l)
    {token : List Char} (htoken : token <+: textOf code l) (hfeed : '\n' ∉ token) :
    ∃ line, (line, l.row + 1) ∈ numberedLines code ∧
      token <+: line.drop (decode (sliceBytes code.toUTF8 ((l.startByte : Int) - l.byteColumn)
        l.startByte).toList).length := by
  obtain ⟨lines, last, hbegin, hlines, hlast, hstart, hrow, hcolumn⟩ := h.start
  obtain ⟨before, hbefore, hstop⟩ := h.stop
  obtain ⟨after, hafter⟩ := hbegin
  rw [textOf_eq_drop ⟨after, hafter⟩ hbefore hstart hstop] at htoken
  -- the text of the node starts what follows its start
  have hnode : before.drop (lines ++ last).length <+: after := by
    have hdrop := hbefore.drop (lines ++ last).length
    rwa [← hafter, List.drop_left] at hdrop
  obtain ⟨rest, rfl⟩ := htoken.trans hnode
  have hkeep : ∀ c ∈ token, decide (c ≠ '\n') = true := fun c hc =>
    decide_eq_true (ne_of_mem_of_not_mem hc hfeed)
  refine ⟨last ++ (token ++ rest).takeWhile (· ≠ '\n'), ?_, ?_⟩
  · rw [hrow]
    exact mem_numberedLines_of_append hafter.symm hlines hlast
  · rw [length_decode_column ⟨_, hafter⟩ hstart hcolumn, List.drop_left,
      List.takeWhile_append_of_pos hkeep]
    exact List.prefix_append _ _

/-- **The diagnostic quotes the text at the place it points to.** If a text is refused for an error
and not for markup, the tree is anchored in the text, and the message quotes a token whose node does
not start with a blank, then what is quoted is not empty, has 20 characters at most and no line
end, and the line of the place has it behind as many characters as the column says. -/
theorem quoted_at_place {parse : String → SyntaxTree} {code token : String} {markup : Bool}
    {e : Spot} {d : Diagnostic} (hanchored : (parse code).Everywhere (Anchored code))
    (herror : error? (parse code) = some e)
    (hfirst : ∀ m, markup? (parse code) markup = some m → e.label.startByte ≤ m.label.startByte)
    (hd : d ∈ (validate parse code markup).errors)
    (hmessage : d.message = "Unexpected token \"" ++ token ++ "\"")
    (hstart : ∀ c ∈ (textOf code (position e).label).head?, isBlank c = false) :
    token ≠ "" ∧ token.length ≤ 20 ∧ (∀ c ∈ token.toList, isLineEnd c = false) ∧
      ∃ (line : List Char) (n column : Nat), (line, n) ∈ numberedLines code ∧
        d.place = ⟨n, column⟩ ∧ token.toList <+: line.drop column := by
  have hcode : code ≠ "" := by
    rintro rfl
    cases hd
  rw [validate_of_ne_empty hcode, judge_of_error herror hfirst, rejected, List.mem_singleton] at hd
  subst hd
  obtain ⟨hproblem, hne⟩ := eq_unexpected_of_message hmessage
  obtain rfl := eq_preview_of_problem hproblem
  obtain ⟨hshort, hends⟩ := preview_short code (position e).label
  have hfeed : '\n' ∉ (preview code.toUTF8 (position e).label).toList :=
    fun hmem => absurd (hends '\n' hmem) (by decide)
  obtain ⟨line, hline, htoken⟩ :=
    (hanchored [] _ (within_position herror)).exists_line (preview_prefix_textOf hstart) hfeed
  exact ⟨hne, hshort, hends, line, _, _, hline, rfl, htoken⟩

/-- A text with a long token in its second line that goes on in the third. -/
def longToken : String := "ü;\nß = ñandúñandúñandúñandúñandú\nz"

/-- The node of a parser that stumbles at the long token. -/
def stumbled : Spot :=
  ⟨.node ⟨"ERROR", 4, 46, 1, 0, false, true⟩
    [.node ⟨"identifier", 4, 6, 1, 0, false, false⟩ [],
      .node ⟨"template_chars", 9, 46, 1, 5, false, false⟩ []], ["program"]⟩

def longTokenTree : SyntaxTree := .node ⟨"program", 0, 46, 0, 0, false, true⟩ [stumbled.tree]

theorem anchored_longTokenTree : longTokenTree.Everywhere (Anchored longToken) := by
  refine SyntaxTree.everywhere_node ⟨⟨[], [], ?_⟩, ⟨longToken.toList, ?_⟩⟩ ?_
  · decide
  · decide
  rw [List.forall_mem_singleton]
  refine SyntaxTree.everywhere_node ⟨⟨"ü;\n".toList, [], ?_⟩, ⟨longToken.toList, ?_⟩⟩ ?_
  · decide
  · decide
  rw [List.forall_mem_cons, List.forall_mem_singleton]
  constructor
  · refine SyntaxTree.everywhere_node ⟨⟨"ü;\n".toList, [], ?_⟩, ⟨"ü;\nß".toList, ?_⟩⟩ (by simp)
    · decide
    · decide
  · refine SyntaxTree.everywhere_node ⟨⟨"ü;\n".toList, "ß = ".toList, ?_⟩, ⟨longToken.toList, ?_⟩⟩
      (by simp)
    · decide
    · decide

theorem label_position_stumbled :
    (position stumbled).label = ⟨"template_chars", 9, 46, 1, 5, false, false⟩ := by
  cbv

theorem textOf_stumbled :
    textOf longToken (position stumbled).label = longToken.toList.drop 7 := by
  rw [label_position_stumbled]
  exact textOf_eq_drop (p := "ü;\nß = ".toList) (by decide) List.prefix_rfl (by decide) (by decide)

theorem problem_stumbled : problem stumbled (Spot.root longTokenTree) longToken.toUTF8 =
    .unexpected "ñandúñandúñandúñandú" := by
  have hstring : hasOpenString stumbled = false := by cbv
  have hname : hasNameAfterNumber stumbled (Spot.root longTokenTree) = false := by cbv
  have hmissing : stumbled.label.missing = false := rfl
  have hshown : preview longToken.toUTF8 (position stumbled).label = "ñandúñandúñandúñandú" := by
    rw [preview_eq, textOf_stumbled]
    decide +kernel
  simp only [problem, hstring, hname, hmissing, hshown, Bool.false_eq_true, if_false]

/-- The four characters in front of it take five bytes. -/
theorem column_stumbled : (decode (sliceBytes longToken.toUTF8
    (((position stumbled).label.startByte : Int) - (position stumbled).label.byteColumn)
    (position stumbled).label.startByte).toList).length = 4 := by
  rw [label_position_stumbled]
  exact @length_decode_column longToken "ü;\n".toList "ß = ".toList _ (by decide) rfl rfl

/-- Twenty characters of it are quoted, and they stand behind four others. -/
theorem quoted_at_place_longToken :
    ∃ d ∈ (validate (fun _ => longTokenTree) longToken true).errors,
      d.message = "Unexpected token \"" ++ "ñandúñandúñandúñandú" ++ "\"" ∧ d.place = ⟨2, 4⟩ ∧
        ∃ (line : List Char) (n column : Nat), (line, n) ∈ numberedLines longToken ∧
          d.place = ⟨n, column⟩ ∧ "ñandúñandúñandúñandú".toList <+: line.drop column := by
  have herror : error? longTokenTree = some stumbled := by cbv
  have hfirst : ∀ m, markup? longTokenTree true = some m →
      stumbled.label.startByte ≤ m.label.startByte := by simp [markup?]
  have hstart : ∀ c ∈ (textOf longToken (position stumbled).label).head?, isBlank c = false := by
    have hhead : (longToken.toList.drop 7).head? = some 'ñ' := by decide
    rw [textOf_stumbled, hhead]
    rintro c ⟨⟩
    decide
  obtain ⟨d, hd, hmessage, hplace⟩ :
      ∃ d ∈ (validate (fun _ => longTokenTree) longToken true).errors,
        d.message = "Unexpected token \"" ++ "ñandúñandúñandúñandú" ++ "\"" ∧
          d.place = ⟨2, 4⟩ := by
    rw [validate_of_ne_empty (by decide), judge_of_error herror hfirst, problem_stumbled, rejected,
      column_stumbled, label_position_stumbled]
    exact ⟨_, List.mem_singleton_self _, by decide +kernel, rfl⟩
  exact ⟨d, hd, hmessage, hplace,
    (quoted_at_place anchored_longTokenTree herror hfirst hd hmessage hstart).2.2.2⟩

end Diagnosis

end Advisor
