import Advisor.Proofs.Json.Scalar

/-!
# What the JSON reader reads

`Value` and `Entries` say how lists and objects are built up of entries, without a word on fuel or
depth. What is read is built up so (`value_of_readValue`), and what is built up so is read unless
it is nested too deep (`reader_complete`): the fuel never runs out.
-/

namespace Advisor.Json

variable {cs rest : List Char} {e : ReadError}

/-! ## Lists and objects alike

The items of a list are read like the members of an object, only without names. -/

/-- The two kinds of brackets. -/
inductive Bracket where
  | square
  | curly
  deriving DecidableEq

namespace Bracket

def opening : Bracket → Char
  | square => '['
  | curly => '{'

def closing : Bracket → Char
  | square => ']'
  | curly => '}'

/-- What stands between the brackets, as a value. Of several members of one name the last one
wins. -/
def value : Bracket → List (String × Json) → Json
  | square, es => .list (es.map Prod.snd)
  | curly, es => .object (es.foldl (fun ms m => put ms m.1 m.2) [])

end Bracket

/-- What comes behind a character that stands at the front of a text. -/
def after? (c : Char) : List Char → Option (List Char)
  | d :: rest => if d = c then some rest else none
  | [] => none

theorem after?_eq_some_iff {c : Char} : after? c cs = some rest ↔ cs = c :: rest := by
  cases cs with
  | nil => simp [after?]
  | cons d cs =>
    rw [after?]
    split
    · rename_i h
      simp [h]
    · rename_i h
      simp [h]

theorem after?_eq_none_iff {c : Char} : after? c cs = none ↔ ∀ rest, cs ≠ c :: rest := by
  rw [Option.eq_none_iff_forall_ne_some]
  exact forall_congr' fun rest => not_congr after?_eq_some_iff

theorem after?_self (c : Char) (rest : List Char) : after? c (c :: rest) = some rest :=
  after?_eq_some_iff.mpr rfl

/-- The name of an entry and the text from its value on. -/
def front? : Bracket → List Char → Option (String × List Char)
  | .square, cs => some ("", cs)
  | .curly, '"' :: rest =>
    match readString [] rest with
    | .error _ => none
    | .ok (name, rest) => (after? ':' (skipSpace rest)).map fun rest => (name, skipSpace rest)
  | .curly, _ => none

/-- Reads the entries between brackets from the first that is left on. -/
def readEntries (b : Bracket) (fuel levels : Nat) (acc : List (String × Json)) (cs : List Char) :
    Read Json :=
  match b with
  | .square => readItems fuel levels (acc.map Prod.snd) cs
  | .curly => readMembers fuel levels acc cs

theorem readEntries_zero (b : Bracket) (levels : Nat) (acc : List (String × Json))
    (cs : List Char) : readEntries b 0 levels acc cs = .error .malformed := by
  cases b with
  | square => rw [readEntries, readItems]
  | curly => rw [readEntries, readMembers]

/-- **One entry**: its value, and then the end or the next one. -/
theorem readEntries_succ (b : Bracket) (fuel levels : Nat) (acc : List (String × Json))
    (cs : List Char) :
    readEntries b (fuel + 1) levels acc cs =
      match front? b cs with
      | none => .error .malformed
      | some (name, cs') =>
        match readValue fuel levels cs' with
        | .error e => .error e
        | .ok (v, rest) =>
          match after? b.closing (skipSpace rest), after? ',' (skipSpace rest) with
          | some rest', _ => .ok (b.value ((name, v) :: acc).reverse, rest')
          | none, some rest' => readEntries b fuel levels ((name, v) :: acc) (skipSpace rest')
          | none, none => .error .malformed := by
  cases b with
  | square =>
    simp only [readEntries, readItems, front?, Bracket.closing]
    cases readValue fuel levels cs with
    | error e => rfl
    | ok r =>
      obtain ⟨v, rest⟩ := r
      dsimp only
      split
      · rename_i heq
        simp [heq, after?, Bracket.value]
      · rename_i heq
        simp [heq, after?]
      · rename_i hclosing hcomma
        rw [after?_eq_none_iff.mpr hclosing, after?_eq_none_iff.mpr hcomma]
  | curly =>
    simp only [readEntries, readMembers, Bracket.closing]
    split
    · rename_i back
      simp only [front?]
      cases h : readString [] back with
      | error e => rw [eq_malformed_of_readString h]
      | ok r =>
        obtain ⟨name, rest⟩ := r
        dsimp only
        split
        · rename_i rest' heq
          rw [heq, after?_self]
          dsimp only [Option.map_some]
          cases readValue fuel levels (skipSpace rest') with
          | error e => rfl
          | ok r =>
            obtain ⟨v, rest⟩ := r
            dsimp only
            split
            · rename_i heq
              simp [heq, after?, Bracket.value]
            · rename_i heq
              simp [heq, after?]
            · rename_i hclosing hcomma
              rw [after?_eq_none_iff.mpr hclosing, after?_eq_none_iff.mpr hcomma]
        · rename_i hcolon
          rw [after?_eq_none_iff.mpr hcolon]
          rfl
    · rename_i hname
      rw [front?]
      exact hname

/-- **A bracket**: nothing may be left to open it, or nothing stands in it, or else its entries
follow. -/
theorem readValue_opening (b : Bracket) (fuel levels : Nat) (cs : List Char) :
    readValue (fuel + 1) levels (b.opening :: cs) =
      match levels with
      | 0 => .error .nestedTooDeep
      | levels + 1 =>
        match after? b.closing (skipSpace cs) with
        | some rest => .ok (b.value [], rest)
        | none => readEntries b fuel levels [] (skipSpace cs) := by
  cases b with
  | square =>
    simp only [Bracket.opening, readValue, Bracket.closing, Bracket.value, readEntries]
    cases levels with
    | zero => rfl
    | succ levels =>
      dsimp only
      split
      · rename_i heq
        rw [heq, after?_self]
        rfl
      · rename_i hclosing
        rw [after?_eq_none_iff.mpr hclosing]
        rfl
  | curly =>
    simp only [Bracket.opening, readValue, Bracket.closing, Bracket.value, readEntries]
    cases levels with
    | zero => rfl
    | succ levels =>
      dsimp only
      split
      · rename_i heq
        rw [heq, after?_self]
        rfl
      · rename_i hclosing
        rw [after?_eq_none_iff.mpr hclosing]

theorem readValue_scalar {fuel levels : Nat} (h : ∀ b : Bracket, cs.head? ≠ some b.opening) :
    readValue (fuel + 1) levels cs = readScalar cs := by
  rw [readValue]
  · rintro rest rfl
    exact h .square rfl
  · rintro rest rfl
    exact h .curly rfl

/-- **What may come of a value**, in one step. -/
theorem readValue_cases (fuel levels : Nat) (cs : List Char) :
    ((∀ b : Bracket, cs.head? ≠ some b.opening) ∧
        readValue (fuel + 1) levels cs = readScalar cs) ∨
      ∃ b cs', cs = Bracket.opening b :: cs' ∧
        ((levels = 0 ∧ readValue (fuel + 1) levels cs = .error .nestedTooDeep) ∨
          ∃ n, levels = n + 1 ∧
            ((∃ rest, skipSpace cs' = b.closing :: rest ∧
                readValue (fuel + 1) levels cs = .ok (b.value [], rest)) ∨
              readValue (fuel + 1) levels cs = readEntries b fuel n [] (skipSpace cs'))) := by
  by_cases hopen : ∃ b cs', cs = Bracket.opening b :: cs'
  · obtain ⟨b, cs', rfl⟩ := hopen
    refine .inr ⟨b, cs', rfl, ?_⟩
    rw [readValue_opening]
    cases levels with
    | zero => exact .inl ⟨rfl, rfl⟩
    | succ n =>
      refine .inr ⟨n, rfl, ?_⟩
      cases hclosing : after? b.closing (skipSpace cs') with
      | some rest => exact .inl ⟨rest, after?_eq_some_iff.mp hclosing, rfl⟩
      | none => exact .inr rfl
  · have hscalar : ∀ b : Bracket, cs.head? ≠ some b.opening := by
      intro b hb
      obtain ⟨cs', rfl⟩ := List.head?_eq_some_iff.mp hb
      exact hopen ⟨b, cs', rfl⟩
    exact .inl ⟨hscalar, readValue_scalar hscalar⟩

/-- **What may come of an entry**, in one step. -/
theorem readEntries_cases {b : Bracket} {fuel levels : Nat} {acc : List (String × Json)}
    {r : Read Json} (h : readEntries b (fuel + 1) levels acc cs = r) :
    r = .error .malformed ∨ ∃ name cs', front? b cs = some (name, cs') ∧
      ((∃ e, readValue fuel levels cs' = .error e ∧ r = .error e) ∨
        ∃ v rest, readValue fuel levels cs' = .ok (v, rest) ∧
          ((∃ rest', skipSpace rest = b.closing :: rest' ∧
              r = .ok (b.value ((name, v) :: acc).reverse, rest')) ∨
            ∃ rest', skipSpace rest = ',' :: rest' ∧
              r = readEntries b fuel levels ((name, v) :: acc) (skipSpace rest'))) := by
  subst h
  rw [readEntries_succ]
  cases hfront : front? b cs with
  | none => exact .inl rfl
  | some entry =>
    obtain ⟨name, cs'⟩ := entry
    dsimp only
    cases hvalue : readValue fuel levels cs' with
    | error e => exact .inr ⟨name, cs', rfl, .inl ⟨e, hvalue, rfl⟩⟩
    | ok value =>
      obtain ⟨v, rest⟩ := value
      dsimp only
      cases hclosing : after? b.closing (skipSpace rest) with
      | some rest' =>
        exact .inr ⟨name, cs', rfl, .inr ⟨v, rest, hvalue,
          .inl ⟨rest', after?_eq_some_iff.mp hclosing, rfl⟩⟩⟩
      | none =>
        cases hcomma : after? ',' (skipSpace rest) with
        | none => exact .inl rfl
        | some rest' =>
          exact .inr ⟨name, cs', rfl, .inr ⟨v, rest, hvalue,
            .inr ⟨rest', after?_eq_some_iff.mp hcomma, rfl⟩⟩⟩

/-! ## What is read -/

mutual

/-- `Value cs v rest`: at the front of `cs` stands the value `v`, and behind it `rest`. -/
inductive Value : List Char → Json → List Char → Prop
  | scalar {cs rest : List Char} {v : Json} :
      (∀ b : Bracket, cs.head? ≠ some b.opening) → readScalar cs = .ok (v, rest) → Value cs v rest
  | empty {b : Bracket} {cs rest : List Char} :
      skipSpace cs = b.closing :: rest → Value (b.opening :: cs) (b.value []) rest
  | filled {b : Bracket} {cs rest : List Char} {es : List (String × Json)} :
      Entries b (skipSpace cs) es rest → Value (b.opening :: cs) (b.value es) rest

/-- `Entries b cs es rest`: at the front of `cs` stand the entries `es`, then the bracket closes,
and behind it stands `rest`. -/
inductive Entries : Bracket → List Char → List (String × Json) → List Char → Prop
  | last {b : Bracket} {cs cs' rest rest' : List Char} {name : String} {v : Json} :
      front? b cs = some (name, cs') → Value cs' v rest → skipSpace rest = b.closing :: rest' →
      Entries b cs [(name, v)] rest'
  | more {b : Bracket} {cs cs' rest rest' rest'' : List Char} {name : String} {v : Json}
      {es : List (String × Json)} :
      front? b cs = some (name, cs') → Value cs' v rest → skipSpace rest = ',' :: rest' →
      Entries b (skipSpace rest') es rest'' → Entries b cs ((name, v) :: es) rest''

end

theorem length_front?_le {b : Bracket} {cs' : List Char} {name : String}
    (h : front? b cs = some (name, cs')) : cs'.length ≤ cs.length := by
  unfold front? at h
  split at h
  · cases h
    exact Nat.le_refl _
  · split at h
    · cases h
    · rename_i back name rest hname
      obtain ⟨rest', hcolon, heq⟩ := Option.map_eq_some_iff.mp h
      cases heq
      have hstring := length_lt_of_readString hname
      have hspace := length_skipSpace_le rest
      have hspace' := length_skipSpace_le rest'
      rw [after?_eq_some_iff.mp hcolon, List.length_cons] at hspace
      rw [List.length_cons]
      omega
  · cases h

/-- What comes behind a character, once blanks are skipped, is shorter. -/
theorem length_lt_of_skipSpace_eq {c : Char} {rest' : List Char} (h : skipSpace rest = c :: rest') :
    rest'.length < rest.length := by
  have := length_skipSpace_le rest
  rw [h, List.length_cons] at this
  omega

/-- **What is read is built up of entries**, and leaves a shorter text. By induction on the fuel,
for values and entries at once. -/
theorem reader_sound (fuel : Nat) :
    (∀ {levels cs v rest}, readValue fuel levels cs = .ok (v, rest) →
        Value cs v rest ∧ rest.length < cs.length) ∧
      ∀ {b levels acc cs v rest}, readEntries b fuel levels acc cs = .ok (v, rest) →
        (∃ es, Entries b cs es rest ∧ v = b.value (acc.reverse ++ es)) ∧
          rest.length < cs.length := by
  induction fuel with
  | zero =>
    constructor
    · intro levels cs v rest h
      rw [readValue] at h
      cases h
    · intro b levels acc cs v rest h
      rw [readEntries_zero] at h
      cases h
  | succ fuel ih =>
    obtain ⟨ihvalue, ihentries⟩ := ih
    constructor
    · intro levels cs v rest h
      rcases readValue_cases fuel levels cs with ⟨hscalar, heq⟩ | ⟨b, cs, rfl, ⟨-, heq⟩ |
        ⟨n, rfl, ⟨rest', hclosing, heq⟩ | heq⟩⟩
      · rw [heq] at h
        rcases readScalar_cases cs with hbad | ⟨v', rest', hgood, hlt⟩
        · rw [hbad] at h
          cases h
        · rw [hgood] at h
          cases h
          exact ⟨.scalar hscalar hgood, hlt⟩
      · rw [heq] at h
        cases h
      · rw [heq] at h
        cases h
        exact ⟨.empty hclosing, Nat.lt_succ_of_lt (length_lt_of_skipSpace_eq hclosing)⟩
      · rw [heq] at h
        obtain ⟨⟨es, hes, rfl⟩, hlt⟩ := ihentries h
        have := length_skipSpace_le cs
        exact ⟨.filled hes, by rw [List.length_cons]; omega⟩
    · intro b levels acc cs v rest h
      rcases readEntries_cases h with hbad | ⟨name, cs', hfront, ⟨e, -, hbad⟩ |
        ⟨u, rest₁, hvalue, ⟨rest₂, hclosing, hend⟩ | ⟨rest₂, hcomma, hnext⟩⟩⟩
      · cases hbad
      · cases hbad
      · obtain ⟨hu, hlt⟩ := ihvalue hvalue
        have := length_front?_le hfront
        have := length_lt_of_skipSpace_eq hclosing
        cases hend
        exact ⟨⟨_, .last hfront hu hclosing, by rw [List.reverse_cons]⟩, by omega⟩
      · obtain ⟨hu, hlt⟩ := ihvalue hvalue
        obtain ⟨⟨es, hes, rfl⟩, hlt'⟩ := ihentries hnext.symm
        have := length_front?_le hfront
        have := length_lt_of_skipSpace_eq hcomma
        have := length_skipSpace_le rest₂
        exact ⟨⟨_, .more hfront hu hcomma hes, by simp⟩, by omega⟩

theorem value_of_readValue {fuel levels : Nat} {v : Json}
    (h : readValue fuel levels cs = .ok (v, rest)) : Value cs v rest := ((reader_sound fuel).1 h).1

theorem length_lt_of_readValue {fuel levels : Nat} {v : Json}
    (h : readValue fuel levels cs = .ok (v, rest)) : rest.length < cs.length :=
  ((reader_sound fuel).1 h).2

/-! ## What is built up of entries is read -/

section Entry

variable {b : Bracket} {fuel levels : Nat} {acc : List (String × Json)} {cs' rest' : List Char}
  {name : String} {v : Json}

theorem readEntries_of_error (hfront : front? b cs = some (name, cs'))
    (hvalue : readValue fuel levels cs' = .error e) :
    readEntries b (fuel + 1) levels acc cs = .error e := by
  simp only [readEntries_succ, hfront, hvalue]

theorem readEntries_of_closing (hfront : front? b cs = some (name, cs'))
    (hvalue : readValue fuel levels cs' = .ok (v, rest))
    (hclosing : skipSpace rest = b.closing :: rest') :
    readEntries b (fuel + 1) levels acc cs = .ok (b.value ((name, v) :: acc).reverse, rest') := by
  simp only [readEntries_succ, hfront, hvalue, after?_eq_some_iff.mpr hclosing]

theorem readEntries_of_comma (hfront : front? b cs = some (name, cs'))
    (hvalue : readValue fuel levels cs' = .ok (v, rest)) (hcomma : skipSpace rest = ',' :: rest') :
    readEntries b (fuel + 1) levels acc cs =
      readEntries b fuel levels ((name, v) :: acc) (skipSpace rest') := by
  have hclosing : after? b.closing (skipSpace rest) = none := by
    rw [hcomma, after?, if_neg (by cases b <;> decide)]
  simp only [readEntries_succ, hfront, hvalue, hclosing, after?_eq_some_iff.mpr hcomma]

/-- **A plain string, and an object with one member of a plain name.** -/
theorem readValue_plain {ds : List Char} (hds : ds.all isPlain = true) (rest : List Char) :
    readValue (fuel + 1) levels ('"' :: (ds ++ '"' :: rest)) =
      .ok (.str (String.ofList ds), rest) := by
  have hscalar : ∀ b : Bracket, ('"' :: (ds ++ '"' :: rest)).head? ≠ some b.opening := by
    intro b
    cases b <;> simp [Bracket.opening]
  rw [readValue_scalar hscalar, readScalar, readString_plain hds]
  rfl

theorem readValue_member (hname : name.toList.all isPlain = true) (hskip : skipSpace cs = cs)
    (hvalue : readValue fuel levels cs = .ok (v, '}' :: rest)) :
    readValue (fuel + 2) (levels + 1) ('{' :: '"' :: (name.toList ++ '"' :: ':' :: cs)) =
      .ok (.object [(name, v)], rest) := by
  have hfront : front? .curly ('"' :: (name.toList ++ '"' :: ':' :: cs)) = some (name, cs) := by
    rw [front?, readString_plain hname, List.reverse_nil, List.nil_append, String.ofList_toList]
    exact congrArg (fun text => some (name, text)) hskip
  exact (readValue_opening .curly (fuel + 1) (levels + 1) _).trans
    (readEntries_of_closing hfront hvalue rfl)

/-- Where the bracket closes there is no entry, or else its value would begin with that bracket. -/
theorem eq_of_front?_closing (h : front? b (b.closing :: cs) = some (name, cs')) :
    cs' = ']' :: cs := by
  cases b with
  | square =>
    cases h
    rfl
  | curly => cases h

end Entry

/-- No value begins with a bracket that closes. -/
theorem not_value_closing {v : Json} : ¬ Value (']' :: cs) v rest := by
  intro h
  generalize ht : ']' :: cs = text at h
  cases h with
  | scalar _ hread =>
    subst ht
    cases hread
  | @empty b _ _ _ => cases b <;> cases ht
  | @filled b _ _ _ _ => cases b <;> cases ht

theorem not_entries_closing {b : Bracket} {es : List (String × Json)} :
    ¬ Entries b (b.closing :: cs) es rest := by
  intro h
  cases h with
  | last hfront hv _ =>
    rw [eq_of_front?_closing hfront] at hv
    exact not_value_closing hv
  | more hfront hv _ _ =>
    rw [eq_of_front?_closing hfront] at hv
    exact not_value_closing hv

/-- **What is built up of entries is read, or it is nested too deep.** The fuel does not run out:
each character pays for a value and for an entry. -/
theorem reader_complete (fuel : Nat) :
    (∀ levels {cs v rest}, Value cs v rest → 2 * cs.length + 1 ≤ fuel →
        readValue fuel levels cs = .ok (v, rest) ∨
          readValue fuel levels cs = .error .nestedTooDeep) ∧
      ∀ levels acc {b cs es rest}, Entries b cs es rest → 2 * cs.length + 2 ≤ fuel →
        readEntries b fuel levels acc cs = .ok (b.value (acc.reverse ++ es), rest) ∨
          readEntries b fuel levels acc cs = .error .nestedTooDeep := by
  induction fuel with
  | zero =>
    constructor
    · intro levels cs v rest _ hfuel
      omega
    · intro levels acc b cs es rest _ hfuel
      omega
  | succ fuel ih =>
    obtain ⟨ihvalue, ihentries⟩ := ih
    constructor
    · intro levels cs v rest h hfuel
      cases h with
      | scalar hscalar hread =>
        rw [readValue_scalar hscalar]
        exact .inl hread
      | @empty b cs _ hclosing =>
        rw [readValue_opening, after?_eq_some_iff.mpr hclosing]
        cases levels with
        | zero => exact .inr rfl
        | succ levels => exact .inl rfl
      | @filled b cs _ es hes =>
        have hspace := length_skipSpace_le cs
        rw [List.length_cons] at hfuel
        have hopen : after? b.closing (skipSpace cs) = none := by
          rw [after?_eq_none_iff]
          intro rest hclosing
          rw [hclosing] at hes
          exact not_entries_closing hes
        rw [readValue_opening, hopen]
        cases levels with
        | zero => exact .inr rfl
        | succ levels => exact ihentries levels [] hes (by omega)
    · intro levels acc b cs es rest h hfuel
      cases h with
      | @last _ _ cs' rest₁ _ name v hfront hv hclosing =>
        have := length_front?_le hfront
        rcases ihvalue levels hv (by omega) with hok | herr
        · rw [readEntries_of_closing hfront hok hclosing, List.reverse_cons]
          exact .inl rfl
        · exact .inr (readEntries_of_error hfront herr)
      | @more _ _ cs' rest₁ rest₂ _ name v es hfront hv hcomma hes =>
        have := length_front?_le hfront
        rcases ihvalue levels hv (by omega) with hok | herr
        · have := length_lt_of_readValue hok
          have := length_lt_of_skipSpace_eq hcomma
          have := length_skipSpace_le rest₂
          rw [readEntries_of_comma hfront hok hcomma]
          have hnext := ihentries levels ((name, v) :: acc) hes (by omega)
          rwa [List.reverse_cons, List.append_assoc] at hnext
        · exact .inr (readEntries_of_error hfront herr)

end Advisor.Json
