import MatcherHost.Proofs.Recognition

/-! Sample rules that go through their input once: decimal digits, and a greeting with a name. Each
runs over the bytes of one class as far as they go, and what stops it decides: the end of the input,
or the first byte of no such class, which is then where the match fails. -/
namespace MatcherHost

/-- Two expectations at the only position there are reports of. -/
theorem Failures.record_both {position : Nat} {first second : String} (ordered : first < second) :
    (Failures.record position first true {}).record position second true =
      ⟨some position, [first, second], []⟩ := by
  have notBefore : ¬second < first := String.lt_asymm ordered
  have different : second ≠ first := (String.ne_of_lt ordered).symm
  simp only [record, add, insertReason, notBefore, different, Nat.lt_irrefl, if_true, if_false]

namespace Samples

open Session

/-- A scan stops at the first byte outside of the class, or at the end. -/
theorem scan_eq_findIdx (inClass : UInt8 → Bool) (input : Bytes) (start : Nat) :
    scan inClass input start = start + (input.drop start).findIdx fun byte => !inClass byte := by
  rw [scan, List.takeWhile_eq_take_findIdx_not, List.length_take,
    Nat.min_eq_left List.findIdx_le_length]

theorem findIdx_eq_length_iff_all {inClass : UInt8 → Bool} {bytes : Bytes} :
    (bytes.findIdx fun byte => !inClass byte) = bytes.length ↔ bytes.all inClass = true := by
  simp only [List.findIdx_eq_length, Bool.not_eq_false', List.all_eq_true]

/-! Decimal digits, each one an item of an array. -/

section Digits

variable {host : Host EntryPoint} {rule : String} {setup : Setup} {input : Bytes} {count : Nat}

/-- The first `count` bytes, each as a range of its own. -/
def singles (input : Bytes) (count : Nat) (inside : count ≤ input.length) : List Value :=
  List.ofFn fun index : Fin count =>
    .range ⟨input, index, index + 1, Nat.le_succ index, Nat.lt_of_lt_of_le index.isLt inside⟩

theorem singles_succ (inside : count + 1 ≤ input.length) :
    singles input (count + 1) inside =
      singles input count (Nat.le_of_succ_le inside) ++
        [.range ⟨input, count, count + 1, Nat.le_succ count, inside⟩] :=
  List.ofFn_succ_last

def collecting (count : Nat) : List Signal :=
  (List.range count).flatMap fun index => [pushRange index (index + 1), .appendToArray]

theorem collecting_succ :
    collecting (count + 1) = collecting count ++ [pushRange count (count + 1), .appendToArray] := by
  rw [collecting, List.range_succ, List.flatMap_append, List.flatMap_singleton, collecting]

/-- After any number of rounds the array on top holds the bytes that were passed, in order. -/
theorem after_collecting {output locals : Stack} {failures : Failures}
    (inside : count ≤ input.length) :
    after setup (collecting count) ⟨input, .array [] :: output, locals, failures, none⟩ =
      ⟨input, .array (singles input count inside) :: output, locals, failures, none⟩ := by
  induction count with
  | zero => rfl
  | succ count ih =>
    rw [collecting_succ, after_append, ih (Nat.le_of_succ_le inside),
      after_pushRange (Nat.le_succ count) inside, after_appendToArray, after_nil, singles_succ]

/-- What the rule has done when it looks whether the input is at its end. -/
theorem after_collected (inside : count ≤ input.length) :
    after setup (.pushArray false :: collecting count ++ [expected count "digit"]) { input } =
      ⟨input, [.array (singles input count inside)], [], Failures.record count "digit" true {},
        none⟩ := by
  rw [List.cons_append, after_pushArray, after_append, after_collecting inside, expected,
    after_report inside (by decide), after_nil]

theorem digits_eq {stop : Nat} (scanned : scan digit input 0 = stop) :
    digits input =
      if stop = input.length then
        succeeding (.pushArray false :: collecting stop ++ [expected stop "digit"])
      else
        failing (.pushArray false :: collecting stop ++ [expected stop "digit"] ++
          [expected stop "end of input", .pop]) := by
  rw [← scanned]
  rfl

theorem scan_digits (input : Bytes) :
    scan digit input 0 = input.findIdx fun byte => !digit byte := by
  rw [scan_eq_findIdx, List.drop_zero, Nat.zero_add]

theorem digits_of_all (whole : input.all digit = true) :
    host.resultFrom rule (digits input) { input } =
      .ok (.array (singles input input.length (Nat.le_refl _))) := by
  have reached := (scan_digits input).trans (findIdx_eq_length_iff_all.mpr whole)
  rw [digits_eq reached, if_pos rfl, succeeding, Host.resultFrom_sending,
    after_collected (Nat.le_refl _)]
  exact Host.resultFrom_matched

theorem digits_of_other (other : input.all digit ≠ true) :
    Host.FailsAt (host.resultFrom rule (digits input) { input }) input
      (input.findIdx fun byte => !digit byte) ["digit", "end of input"] [] := by
  have unfinished := mt findIdx_eq_length_iff_all.mp other
  have ordered : "digit" < "end of input" := by decide
  rw [digits_eq (scan_digits input), if_neg unfinished, failing, Host.resultFrom_sending,
    after_append, after_collected List.findIdx_le_length, expected,
    after_report List.findIdx_le_length (by decide), after_pop, after_nil,
    Failures.record_both ordered]
  exact Host.failsAt_unmatched List.findIdx_le_length

end Digits

/-- Whatever the input, the host's settings and what makes objects, the rule for digits never breaks
the contract. If there are only digits, it gives the array of the ranges that cover one byte each,
from the first to the last; an empty input has none. Otherwise it fails at the first byte that is
not a digit, where it expected a digit or the end. -/
theorem digits_recognises_numerals (config : Config) (factory : Factory) (input : Bytes) :
    let result := ((host config factory).parse "digits" input).result
    let decimal (byte : UInt8) : Bool := 48 ≤ byte && byte ≤ 57
    (∀ rule violation, result ≠ .error (.contract rule violation)) ∧
    (input.all decimal = true →
      result = .ok (.array (singles input input.length (Nat.le_refl _)))) ∧
    (input.all decimal ≠ true →
      Host.FailsAt result input (input.findIdx fun byte => !decimal byte)
        ["digit", "end of input"] []) := by
  intro result decimal
  have followed : result = (host config factory).resultFrom "digits" (digits input) { input } :=
    Host.parse_resultFrom rfl
  -- The bounds of `decimal` are those of the class that the rule scans for.
  have accepts (whole : input.all decimal = true) : result = _ :=
    followed.trans (digits_of_all whole)
  have rejects (other : input.all decimal ≠ true) : Host.FailsAt result input _ _ [] :=
    followed ▸ digits_of_other other
  refine ⟨fun rule violation => ?_, accepts, rejects⟩
  by_cases whole : input.all decimal = true
  · rw [accepts whole]
    exact nofun
  · exact (rejects whole).ne_contract rule violation

/-- The bytes of `12`, nothing, and `1a2`. -/
theorem digits_recognises_twelve :
    let result (input : Bytes) := ((host {} .identity).parse "digits" input).result
    result [49, 50] = .ok (.array [.range ⟨[49, 50], 0, 1, by decide, by decide⟩,
      .range ⟨[49, 50], 1, 2, by decide, by decide⟩]) ∧
    result [] = .ok (.array []) ∧
    Host.FailsAt (result [49, 97, 50]) [49, 97, 50] 1 ["digit", "end of input"] [] := by
  intro result
  have recognised := digits_recognises_numerals {} .identity
  obtain ⟨_, numeral, _⟩ := recognised [49, 50]
  obtain ⟨_, nothing, _⟩ := recognised []
  obtain ⟨_, _, letter⟩ := recognised [49, 97, 50]
  exact ⟨numeral rfl, nothing rfl, letter (by decide)⟩

/-! The word hello, a blank, and a name in lowercase letters. -/

section Greeting

variable {host : Host EntryPoint} {rule : String} {input wanted : Bytes} {offset : Nat}

/-- The first offset where the input is not as wanted; the input may end there. -/
structure FirstDifference (wanted input : Bytes) (offset : Nat) : Prop where
  within : offset < wanted.length
  agrees : input.take offset = wanted.take offset
  differs : input[offset]? ≠ wanted[offset]?

@[simp] theorem firstDifference_zero {first : UInt8} :
    FirstDifference (first :: wanted) input 0 ↔ input.head? ≠ some first := by
  rw [List.head?_eq_getElem?]
  exact ⟨fun difference => difference.differs, fun differs => ⟨Nat.succ_pos _, rfl, differs⟩⟩

@[simp] theorem firstDifference_succ {first : UInt8} :
    FirstDifference (first :: wanted) input (offset + 1) ↔
      input.head? = some first ∧ FirstDifference wanted input.tail offset := by
  cases input with
  | nil =>
    constructor
    · rintro ⟨_, agrees, _⟩
      contradiction
    · rintro ⟨begins, _⟩
      contradiction
  | cons byte input =>
    constructor
    · rintro ⟨within, agrees, differs⟩
      obtain ⟨rfl, later⟩ := List.cons.inj agrees
      exact ⟨rfl, Nat.lt_of_succ_lt_succ within, later, differs⟩
    · rintro ⟨begins, within, agrees, differs⟩
      obtain rfl := Option.some.inj begins
      exact ⟨Nat.succ_lt_succ within, congrArg (byte :: ·) agrees, differs⟩

theorem FirstDifference.inside (first : FirstDifference wanted input offset) :
    offset ≤ input.length := by
  have length := congrArg List.length first.agrees
  rw [List.length_take, List.length_take, Nat.min_eq_left (Nat.le_of_lt first.within)] at length
  omega

theorem mismatch?_eq_none : mismatch? wanted input = none ↔ wanted <+: input := by
  induction wanted generalizing input with
  | nil => simp [mismatch?]
  | cons first wanted ih =>
    cases input with
    | nil => simp [mismatch?]
    | cons byte input => by_cases same : first = byte <;> simp [mismatch?, same, ih]

theorem mismatch?_eq_some :
    mismatch? wanted input = some offset ↔ FirstDifference wanted input offset := by
  induction wanted generalizing input offset with
  | nil => exact ⟨nofun, fun first => absurd first.within (Nat.not_lt_zero _)⟩
  | cons first wanted ih =>
    -- After equal first bytes the rest is compared, at an offset that is one less.
    cases input with
    | nil => cases offset <;> simp [mismatch?]
    | cons byte input =>
      by_cases same : first = byte
      · cases offset <;> simp [mismatch?, same, ih]
      · cases offset <;> simp [mismatch?, same, Ne.symm same]

def greeted (input : Bytes) (fits : 6 ≤ input.length) : Value :=
  .mapping [("name", .range ⟨input, 6, input.length, fits, Nat.le_refl _⟩)]

theorem salute_length : salute.length = 6 := rfl

theorem greeting_without_salute (difference : FirstDifference salute input offset) :
    Host.FailsAt (host.resultFrom rule (greeting input) { input }) input offset
      ["\"hello \""] [] := by
  simp only [greeting, mismatch?_eq_some.mpr difference, failing, expected]
  rw [Host.resultFrom_sending, after_hook rfl rfl, after_report difference.inside (by decide),
    after_hook rfl rfl, after_nil]
  exact Host.failsAt_unmatched difference.inside

/-- The first offset after the salute where there is no letter; the input may end there. -/
def nameEnd (input : Bytes) : Nat := 6 + (input.drop 6).findIdx fun byte => !lowercase byte

theorem le_nameEnd (input : Bytes) : 6 ≤ nameEnd input := Nat.le_add_right ..

theorem nameEnd_le (fits : 6 ≤ input.length) : nameEnd input ≤ input.length := by
  have bound := @List.findIdx_le_length _ (fun byte => !lowercase byte) (input.drop 6)
  rw [List.length_drop] at bound
  rw [nameEnd]
  omega

theorem scan_nameEnd (input : Bytes) : scan lowercase input 6 = nameEnd input :=
  scan_eq_findIdx lowercase input 6

theorem greeting_without_name (salutes : salute <+: input) (nameless : nameEnd input = 6) :
    Host.FailsAt (host.resultFrom rule (greeting input) { input }) input 6 ["[a-z]"] [] := by
  have inside : 6 ≤ input.length := salutes.length_le
  simp only [greeting, mismatch?_eq_none.mpr salutes, salute_length, scan_nameEnd, nameless,
    if_true, failing, expected]
  rw [Host.resultFrom_sending, after_hook rfl rfl, after_report inside (by decide),
    after_hook rfl rfl, after_nil]
  exact Host.failsAt_unmatched inside

/-- Where a name follows the salute, what ends it decides. -/
theorem greeting_of_name (salutes : salute <+: input) (fits : 6 ≤ input.length)
    (named : 6 < nameEnd input) :
    if nameEnd input < input.length then
      Host.FailsAt (host.resultFrom rule (greeting input) { input }) input (nameEnd input)
        ["[a-z]", "end of input"] []
    else host.resultFrom rule (greeting input) { input } = .ok (greeted input fits) := by
  have inside : nameEnd input ≤ input.length := nameEnd_le fits
  have moved : nameEnd input ≠ 6 := Nat.ne_of_gt named
  simp only [greeting, mismatch?_eq_none.mpr salutes, salute_length, scan_nameEnd, moved, if_false]
  by_cases more : nameEnd input < input.length
  · have unfinished : nameEnd input ≠ input.length := Nat.ne_of_lt more
    have ordered : "[a-z]" < "end of input" := by decide
    rw [if_pos more, if_pos unfinished, failing, expected, expected, Host.resultFrom_sending,
      after_hook rfl rfl, after_report inside (by decide), after_report inside (by decide),
      after_hook rfl rfl, after_nil, Failures.record_both ordered]
    exact Host.failsAt_unmatched inside
  · have finished : nameEnd input = input.length := Nat.le_antisymm inside (Nat.not_lt.mp more)
    rw [if_neg more, if_neg (not_not_intro finished), finished, succeeding,
      Host.resultFrom_sending, after_hook rfl rfl, after_pushRange fits (Nat.le_refl _),
      after_label (by decide), after_hook rfl rfl, after_nil]
    exact Host.resultFrom_matched

/-- The grammar, by what the rule looks at: the salute, the letters after it, and whether anything
follows. -/
theorem greeting_iff :
    (∃ name, name ≠ [] ∧ (∀ byte ∈ name, lowercase byte = true) ∧ input = salute ++ name) ↔
      salute <+: input ∧ 6 < nameEnd input ∧ nameEnd input = input.length := by
  constructor
  · rintro ⟨name, nonempty, letters, rfl⟩
    have whole := findIdx_eq_length_iff_all.mpr (List.all_eq_true.mpr letters)
    have positive := List.length_pos_iff.mpr nonempty
    rw [nameEnd, List.drop_left' salute_length, whole, List.length_append, salute_length]
    exact ⟨List.prefix_append .., by omega, rfl⟩
  · rintro ⟨⟨name, rfl⟩, named, finished⟩
    rw [nameEnd, List.drop_left' salute_length] at named finished
    rw [List.length_append, salute_length] at finished
    have whole := Nat.add_left_cancel finished
    refine ⟨name, ?_, List.all_eq_true.mp (findIdx_eq_length_iff_all.mp whole), rfl⟩
    rintro rfl
    exact Nat.lt_irrefl 6 named

/-- The rule fails to match, or the input is in the grammar and the rule gives its value. -/
theorem greeting_rejects_or_greets :
    (∃ position expectations,
      Host.FailsAt (host.resultFrom rule (greeting input) { input }) input position
        expectations []) ∨
    ∃ fits, host.resultFrom rule (greeting input) { input } = .ok (greeted input fits) ∧
      ∃ name, name ≠ [] ∧ (∀ byte ∈ name, lowercase byte = true) ∧ input = salute ++ name := by
  cases compared : mismatch? salute input with
  | some offset => exact .inl ⟨_, _, greeting_without_salute (mismatch?_eq_some.mp compared)⟩
  | none =>
    have salutes := mismatch?_eq_none.mp compared
    have fits : 6 ≤ input.length := salutes.length_le
    rcases Nat.eq_or_lt_of_le (le_nameEnd input) with nameless | named
    · exact .inl ⟨_, _, greeting_without_name salutes nameless.symm⟩
    · have followed := @greeting_of_name host rule _ salutes fits named
      split at followed
      · exact .inl ⟨_, _, followed⟩
      · rename_i more
        have finished := Nat.le_antisymm (nameEnd_le fits) (Nat.not_lt.mp more)
        exact .inr ⟨fits, followed, greeting_iff.mpr ⟨salutes, named, finished⟩⟩

end Greeting

/-- Whatever the input, the host's settings and what makes objects, the rule for greetings never
breaks the contract. It matches exactly the inputs that are the salute, the six bytes of `hello` and
a blank, and one or more lowercase letters, and gives these as the name. Otherwise it fails and says
no more than what it expected: the salute, where the input first differs from it or ends before it
does; a letter, if none follows the salute; a letter or the end, if something else follows the
letters. -/
theorem greeting_recognises_salute (config : Config) (factory : Factory) (input : Bytes) :
    let result := ((host config factory).parse "greeting" input).result
    let hello : Bytes := [104, 101, 108, 108, 111, 32]
    let letter (byte : UInt8) : Bool := 97 ≤ byte && byte ≤ 122
    let stop := 6 + (input.drop 6).findIdx fun byte => !letter byte
    (∀ rule violation, result ≠ .error (.contract rule violation)) ∧
    ((∃ fits, result = .ok (greeted input fits)) ↔
      ∃ name, name ≠ [] ∧ (∀ byte ∈ name, letter byte = true) ∧ input = hello ++ name) ∧
    ((∃ fits, result = .ok (greeted input fits)) ∨
      ∃ position expectations, Host.FailsAt result input position expectations []) ∧
    (∀ offset, FirstDifference hello input offset →
      Host.FailsAt result input offset ["\"hello \""] []) ∧
    (hello <+: input → stop = 6 → Host.FailsAt result input 6 ["[a-z]"] []) ∧
    (hello <+: input → 6 < stop → stop < input.length →
      Host.FailsAt result input stop ["[a-z]", "end of input"] []) := by
  intro result hello letter stop
  have followed :
      result = (host config factory).resultFrom "greeting" (greeting input) { input } :=
    Host.parse_resultFrom rfl
  -- The bytes of `hello` and the bounds of `letter` are those that the rule compares with.
  have settled := @greeting_rejects_or_greets (host config factory) "greeting" input
  rw [← followed] at settled
  refine ⟨fun rule violation => ?_, ⟨?_, fun greets => ?_⟩, ?_,
    fun offset difference => followed ▸ greeting_without_salute difference,
    fun salutes nameless => followed ▸ greeting_without_name salutes nameless,
    fun salutes named more =>
      followed ▸ (if_pos more).mp (greeting_of_name salutes salutes.length_le named)⟩
  · rcases settled with ⟨_, _, failed⟩ | ⟨_, accepted, _⟩
    · exact failed.ne_contract rule violation
    · rw [accepted]
      exact nofun
  · rintro ⟨_, accepted⟩
    rcases settled with ⟨_, _, failed⟩ | ⟨_, _, greets⟩
    · exact absurd accepted (failed.ne_ok _)
    · exact greets
  · obtain ⟨salutes, named, finished⟩ := greeting_iff.mp greets
    have settles := @greeting_of_name (host config factory) "greeting" input salutes
      salutes.length_le named
    rw [if_neg (Nat.not_lt.mpr finished.ge)] at settles
    exact ⟨salutes.length_le, followed.trans settles⟩
  · rcases settled with failed | ⟨fits, accepted, _⟩
    · exact .inr failed
    · exact .inl ⟨fits, accepted⟩

/-- The bytes of `hello bob`, `help`, `hello `, and `hello bob!`. -/
theorem greeting_recognises_bob :
    let result (input : Bytes) := ((host {} .identity).parse "greeting" input).result
    let hello : Bytes := [104, 101, 108, 108, 111, 32]
    (∃ fits, result (hello ++ [98, 111, 98]) = .ok (greeted (hello ++ [98, 111, 98]) fits)) ∧
    Host.FailsAt (result [104, 101, 108, 112]) [104, 101, 108, 112] 3 ["\"hello \""] [] ∧
    Host.FailsAt (result hello) hello 6 ["[a-z]"] [] ∧
    Host.FailsAt (result (hello ++ [98, 111, 98, 33])) (hello ++ [98, 111, 98, 33]) 9
      ["[a-z]", "end of input"] [] := by
  intro result hello
  have recognised := greeting_recognises_salute {} .identity
  obtain ⟨_, accepts, _⟩ := recognised (hello ++ [98, 111, 98])
  obtain ⟨_, _, _, differs, _⟩ := recognised [104, 101, 108, 112]
  obtain ⟨_, _, _, _, nameless, _⟩ := recognised hello
  obtain ⟨_, _, _, _, _, unfinished⟩ := recognised (hello ++ [98, 111, 98, 33])
  exact ⟨accepts.mpr ⟨[98, 111, 98], by decide, List.all_eq_true.mp rfl, rfl⟩,
    differs 3 ⟨by decide, rfl, by decide⟩, nameless (List.prefix_refl _) rfl,
    unfinished (List.prefix_append ..) (by decide) (by decide)⟩

end Samples
end MatcherHost
