import Advisor.Proofs.Json.Reader

/-!
# When the JSON reader gives up

`Opens n cs` says that at some point of a text `n` brackets stand open inside of each other, all
that comes before being in order. The reader gives up for exactly the texts that open more brackets
than it allows (`read_eq_nestedTooDeep_iff`).
-/

namespace Advisor.Json

variable {cs rest : List Char}

/-- `Reached b cs cs'`: `cs'` begins with the value of one of the entries at the front of `cs`, and
all entries before it are in order. -/
inductive Reached (b : Bracket) : List Char → List Char → Prop
  | here {cs cs' : List Char} {name : String} : front? b cs = some (name, cs') → Reached b cs cs'
  | later {cs cs' cs'' rest rest' : List Char} {name : String} {v : Json} :
      front? b cs = some (name, cs') → Value cs' v rest → skipSpace rest = ',' :: rest' →
      Reached b (skipSpace rest') cs'' → Reached b cs cs''

/-- `Opens n cs`: at some point of the value at the front of `cs`, `n` brackets stand open inside
of each other, and all that comes before that point is in order. -/
inductive Opens : Nat → List Char → Prop
  | bracket (b : Bracket) (cs : List Char) : Opens 1 (b.opening :: cs)
  | inside {n : Nat} {b : Bracket} {cs cs' : List Char} :
      Reached b (skipSpace cs) cs' → Opens n cs' → Opens (n + 1) (b.opening :: cs)

theorem not_opens_closing {n : Nat} : ¬ Opens n (']' :: cs) := by
  intro h
  generalize ht : ']' :: cs = text at h
  cases h with
  | bracket b _ => cases b <;> cases ht
  | @inside _ b _ _ _ _ => cases b <;> cases ht

/-- **The reader gives up for brackets that stand open inside of each other.** -/
theorem opens_of_reader (fuel : Nat) :
    (∀ {levels cs}, readValue fuel levels cs = .error .nestedTooDeep → Opens (levels + 1) cs) ∧
      ∀ {b levels acc cs}, readEntries b fuel levels acc cs = .error .nestedTooDeep →
        ∃ cs', Reached b cs cs' ∧ Opens (levels + 1) cs' := by
  induction fuel with
  | zero =>
    constructor
    · intro levels cs h
      rw [readValue] at h
      cases h
    · intro b levels acc cs h
      rw [readEntries_zero] at h
      cases h
  | succ fuel ih =>
    obtain ⟨ihvalue, ihentries⟩ := ih
    constructor
    · intro levels cs h
      rcases readValue_cases fuel levels cs with ⟨hscalar, heq⟩ | ⟨b, cs, rfl, ⟨rfl, -⟩ |
        ⟨n, rfl, ⟨rest', hclosing, heq⟩ | heq⟩⟩
      · rw [heq] at h
        rcases readScalar_cases cs with hbad | ⟨v', rest', hgood, -⟩
        · rw [hbad] at h
          cases h
        · rw [hgood] at h
          cases h
      · exact .bracket b cs
      · rw [heq] at h
        cases h
      · rw [heq] at h
        obtain ⟨cs', hreached, hopens⟩ := ihentries h
        exact .inside hreached hopens
    · intro b levels acc cs h
      rcases readEntries_cases h with hbad | ⟨name, cs', hfront, ⟨e, hvalue, hbad⟩ |
        ⟨u, rest₁, hvalue, ⟨rest₂, hclosing, hend⟩ | ⟨rest₂, hcomma, hnext⟩⟩⟩
      · cases hbad
      · cases hbad
        exact ⟨cs', .here hfront, ihvalue hvalue⟩
      · cases hend
      · obtain ⟨cs'', hreached, hopens⟩ := ihentries hnext.symm
        exact ⟨cs'', .later hfront (value_of_readValue hvalue) hcomma hreached, hopens⟩

/-- Entries are read up to a value that is nested too deep. -/
theorem readEntries_of_reached {b : Bracket} {levels : Nat} {cs' : List Char}
    (hreached : Reached b cs cs')
    (hdeep : ∀ fuel, 2 * cs'.length + 1 ≤ fuel →
      readValue fuel levels cs' = .error .nestedTooDeep) :
    ∀ fuel acc, 2 * cs.length + 2 ≤ fuel →
      readEntries b fuel levels acc cs = .error .nestedTooDeep := by
  induction hreached with
  | @here cs cs' name hfront =>
    intro fuel acc hfuel
    obtain ⟨fuel, rfl⟩ : ∃ n, fuel = n + 1 := ⟨fuel - 1, by omega⟩
    have := length_front?_le hfront
    exact readEntries_of_error hfront (hdeep fuel (by omega))
  | @later cs cs₁ cs₂ rest rest' name v hfront hv hcomma _ ih =>
    intro fuel acc hfuel
    obtain ⟨fuel, rfl⟩ : ∃ n, fuel = n + 1 := ⟨fuel - 1, by omega⟩
    have := length_front?_le hfront
    rcases (reader_complete fuel).1 levels hv (by omega) with hok | herr
    · have := length_lt_of_readValue hok
      have := length_lt_of_skipSpace_eq hcomma
      have := length_skipSpace_le rest'
      rw [readEntries_of_comma hfront hok hcomma]
      exact ih hdeep fuel ((name, v) :: acc) (by omega)
    · exact readEntries_of_error hfront herr

/-- **More open brackets than levels are too many.** -/
theorem readValue_of_opens {n : Nat} (h : Opens n cs) :
    ∀ fuel levels, levels < n → 2 * cs.length + 1 ≤ fuel →
      readValue fuel levels cs = .error .nestedTooDeep := by
  induction h with
  | bracket b cs =>
    intro fuel levels hlevels hfuel
    obtain ⟨fuel, rfl⟩ : ∃ n, fuel = n + 1 := ⟨fuel - 1, by omega⟩
    obtain rfl : levels = 0 := by omega
    exact readValue_opening b fuel 0 cs
  | @inside n b cs cs' hreached hopens ih =>
    intro fuel levels hlevels hfuel
    obtain ⟨fuel, rfl⟩ : ∃ n, fuel = n + 1 := ⟨fuel - 1, by omega⟩
    rw [readValue_opening]
    cases levels with
    | zero => rfl
    | succ levels =>
      have hopen : after? b.closing (skipSpace cs) = none := by
        rw [after?_eq_none_iff]
        intro rest hclosing
        rw [hclosing] at hreached
        cases hreached with
        | here hfront =>
          rw [eq_of_front?_closing hfront] at hopens
          exact not_opens_closing hopens
        | later hfront hv _ _ =>
          rw [eq_of_front?_closing hfront] at hv
          exact not_value_closing hv
      have := length_skipSpace_le cs
      rw [List.length_cons] at hfuel
      dsimp only
      rw [hopen]
      exact readEntries_of_reached hreached (fun fuel => ih fuel levels (by omega)) fuel []
        (by omega)

/-- **When a text is nested too deep**: at some point of it more brackets stand open inside of each
other than the reader allows, and all that comes before is in order. -/
theorem read_eq_nestedTooDeep_iff {depth : Nat} {text : String} :
    read depth text = .error .nestedTooDeep ↔ Opens (depth + 1) (skipSpace text.toList) := by
  have hread : read depth text = .error .nestedTooDeep ↔
      readValue (2 * text.toList.length + 1) depth (skipSpace text.toList) =
        .error .nestedTooDeep := by
    rw [read]
    cases readValue (2 * text.toList.length + 1) depth (skipSpace text.toList) with
    | error e => simp
    | ok r =>
      dsimp only
      split <;> simp
  rw [hread]
  constructor
  · exact (opens_of_reader _).1
  · intro h
    have := length_skipSpace_le text.toList
    exact readValue_of_opens h _ depth (Nat.lt_succ_self _) (by omega)

/-- Nothing but brackets that open. -/
theorem opens_replicate (n : Nat) (cs : List Char) :
    Opens (n + 1) (List.replicate (n + 1) '[' ++ cs) := by
  induction n with
  | zero => exact .bracket .square cs
  | succ n ih =>
    rw [List.replicate_succ, List.cons_append]
    exact .inside (b := .square) (.here rfl) ih

end Advisor.Json
