import MatcherHost.Proofs.Assembly
import MatcherHost.Proofs.Backreference
import MatcherHost.Proofs.Locating
import MatcherHost.Proofs.Scopes
import MatcherHost.Proofs.Tracing
import MatcherHost.Rules.Samples

/-! What the sample rules recognise. A rule is followed signal by signal, on whatever input, to the
value it leaves or the failure it reports; the conditions it meets on the way are then compared with
the grammar it stands for. -/
namespace MatcherHost

namespace Host

variable {ε : Type} {host : Host ε} {rule : String}

def resultFrom (host : Host ε) (rule : String) (matcher : Matcher) (session : Session) :
    Except HostError Value :=
  let run := matcher.run host.setup session
  (host.conclude rule run.session run.status).result

theorem parse_resultFrom {host : Host EntryPoint} {entry : EntryPoint} {input : Bytes}
    (found : host.resolve rule = .ok entry) :
    (host.parse rule input).result = host.resultFrom rule (entry input) { input } := by
  rw [parse_found found]
  rfl

theorem resultFrom_sending (signals : List Signal) (next : Matcher) (session : Session) :
    host.resultFrom rule (.sending signals next) session =
      host.resultFrom rule next (session.after host.setup signals) := by
  simp only [resultFrom, Matcher.run_sending]
  rfl

theorem resultFrom_send (signal : Signal) (next : Option Nat → Matcher) (session : Session) :
    host.resultFrom rule (.send signal next) session =
      host.resultFrom rule (next (session.respond host.setup signal).answer)
        (session.respond host.setup signal).session := rfl

/-- The result is a failure to match at byte `position` of the input, on the line and in the column
where a reader of the bytes before it stands, for exactly these reasons. -/
def FailsAt (result : Except HostError Value) (input : Bytes) (position : Nat)
    (expectations otherReasons : List String) : Prop :=
  ∃ diagnostic : Diagnostic, result = .error (.unmatched diagnostic) ∧
    diagnostic.location.position = position ∧ position ≤ input.length ∧
    (diagnostic.location.line, diagnostic.location.column) = Location.read (input.take position) ∧
    diagnostic.expectations = expectations ∧ diagnostic.otherReasons = otherReasons

section Failing

variable {result : Except HostError Value} {input : Bytes} {position : Nat}
  {expectations otherReasons : List String}

theorem failsAt_unmatched {output locals : Stack} (inside : position ≤ input.length) :
    FailsAt (host.resultFrom rule (.done 0)
        ⟨input, output, locals, ⟨some position, expectations, otherReasons⟩, none⟩)
      input position expectations otherReasons :=
  ⟨_, rfl, rfl, inside, Location.place_locate input position, rfl, rfl⟩

theorem FailsAt.ne_ok (failed : FailsAt result input position expectations otherReasons)
    (value : Value) : result ≠ .ok value := by
  obtain ⟨diagnostic, rfl, _⟩ := failed
  exact nofun

theorem FailsAt.ne_contract (failed : FailsAt result input position expectations otherReasons)
    (rule : String) (violation : Violation) : result ≠ .error (.contract rule violation) := by
  obtain ⟨diagnostic, rfl, _⟩ := failed
  intro broken
  exact HostError.noConfusion (Except.error.inj broken)

end Failing

theorem resultFrom_matched {input : Bytes} {value : Value} {locals : Stack}
    {failures : Failures} :
    host.resultFrom rule (.done 1) ⟨input, [value], locals, failures, none⟩ = .ok value := rfl

end Host

namespace Samples

open Session

/-! One signal of a rule, served by an open session, and what the rule goes on from. -/

section Steps

variable {setup : Setup} {input : Bytes} {output locals : Stack} {failures : Failures}
  {rest : List Signal}

theorem after_served {session reached : Session} {signal : Signal} {call : Call}
    (opened : session.violation = none) (heard : signal.isTraceHook = false)
    (decodes : signal.Decodes session.input.length call)
    (served : session.apply setup.factory call = ⟨reached, none, none⟩) :
    session.after setup (signal :: rest) = reached.after setup rest := by
  rw [after_cons, respond_reaches opened heard decodes served]

theorem after_pushRange {start stop : Nat} (ordered : start ≤ stop)
    (inside : stop ≤ input.length) :
    after setup (pushRange start stop :: rest) ⟨input, output, locals, failures, none⟩ =
      after setup rest ⟨input, .range ⟨input, start, stop, ordered, inside⟩ :: output, locals,
        failures, none⟩ := by
  refine after_served rfl rfl (.pushInputRange (Nat.le_trans ordered inside) inside) ?_
  rw [apply, Stack.pushRange_piece ⟨input, start, stop, ordered, inside⟩ rfl output]
  rfl

theorem after_label {name : String} {value : Value} (free : Value.Spellable name) :
    after setup (label name :: rest) ⟨input, value :: output, locals, failures, none⟩ =
      after setup rest ⟨input, .mapping [(name, value)] :: output, locals, failures, none⟩ :=
  after_served rfl rfl (.makeLabel (Argument.text_encode _ free)) rfl

theorem after_mergePair {first second : String} {value other : Value} (before : first < second) :
    after setup (.mergeLabels 2 :: rest)
        ⟨input, .mapping [(second, other)] :: .mapping [(first, value)] :: output, locals,
          failures, none⟩ =
      after setup rest
        ⟨input, .mapping [(first, value), (second, other)] :: output, locals, failures, none⟩ := by
  have ascending : Entries.Ascending [(first, value), (second, other)] :=
    List.pairwise_pair.mpr before
  have merged := Stack.mergeLabels_labelled [(first, value), (second, other)] output ascending
  exact after_served rfl rfl (@Signal.Decodes.mergeLabels _ 2)
    (congrArg (onOutput ⟨input, _, locals, failures, none⟩) merged)

theorem after_report {position : Nat} {reason : String} {isExpectation : Bool}
    (inside : position ≤ input.length) (free : Value.Spellable reason) :
    after setup (.traceFailure (pointer position) (text reason) isExpectation :: rest)
        ⟨input, output, locals, failures, none⟩ =
      after setup rest
        ⟨input, output, locals, failures.record position reason isExpectation, none⟩ :=
  after_served rfl rfl (.traceFailure inside (Argument.text_encode _ free)) rfl

theorem after_pushArray :
    after setup (.pushArray false :: rest) ⟨input, output, locals, failures, none⟩ =
      after setup rest ⟨input, .array [] :: output, locals, failures, none⟩ :=
  after_served rfl rfl .pushArray rfl

theorem after_appendToArray {item : Value} {items : List Value} :
    after setup (.appendToArray :: rest)
        ⟨input, item :: .array items :: output, locals, failures, none⟩ =
      after setup rest ⟨input, .array (items ++ [item]) :: output, locals, failures, none⟩ :=
  after_served rfl rfl .appendToArray rfl

theorem after_pop {value : Value} :
    after setup (.pop :: rest) ⟨input, value :: output, locals, failures, none⟩ =
      after setup rest ⟨input, output, locals, failures, none⟩ :=
  after_served rfl rfl .pop rfl

/-- Nothing depends on a hook with a readable name, whether it is observed or not. -/
theorem after_hook {session : Session} {signal : Signal} (hook : signal.isTraceHook = true)
    (legible : signal.legible = true) :
    session.after setup (signal :: rest) = session.after setup rest := by
  rw [after_cons, (respond_hook hook fun _ => legible).1]

theorem after_bind {value : Value} :
    after setup (.localsPush 1 :: rest) ⟨input, value :: output, locals, failures, none⟩ =
      after setup rest ⟨input, output, value :: locals, failures, none⟩ :=
  after_served rfl rfl (@Signal.Decodes.localsPush _ 1) rfl

theorem after_fetch {value : Value} :
    after setup (.localsLoad 0 :: rest) ⟨input, output, value :: locals, failures, none⟩ =
      after setup rest ⟨input, value :: output, value :: locals, failures, none⟩ :=
  after_served rfl rfl (@Signal.Decodes.localsLoad _ 0) rfl

theorem after_release {value : Value} :
    after setup (.localsPop 1 :: rest) ⟨input, output, value :: locals, failures, none⟩ =
      after setup rest ⟨input, output, locals, failures, none⟩ :=
  after_served rfl rfl (@Signal.Decodes.localsPop _ 1) rfl

end Steps

theorem scan_start (inClass : UInt8 → Bool) (input : Bytes) :
    scan inClass input 0 = (input.takeWhile inClass).length := Nat.zero_add _

/-! A lowercase key, an equals sign, and the key again. -/

section Assignment

variable {host : Host EntryPoint} {rule : String} {input key : Bytes} {stop position : Nat}

/-- The rule keeps its key as a local before it goes on. -/
theorem resultFrom_bindKey (inside : stop ≤ input.length) (next : Matcher) :
    host.resultFrom rule (.sending [pushRange 0 stop, .localsPush 1] next) { input } =
      host.resultFrom rule next
        ⟨input, [], [.range ⟨input, 0, stop, Nat.zero_le stop, inside⟩], {}, none⟩ := by
  rw [Host.resultFrom_sending, after_pushRange (Nat.zero_le stop) inside, after_bind, after_nil]

/-- Matching a local leaves the session as it was; only the answer tells how it went. -/
theorem resultFrom_matchKey {piece : InputRange} {locals : Stack} {failures : Failures}
    (inside : position ≤ input.length) (next : Option Nat → Matcher) :
    host.resultFrom rule (.sending [.localsLoad 0] (.send (.matchAt (pointer position)) next))
        ⟨input, [], .range piece :: locals, failures, none⟩ =
      host.resultFrom rule (next (matchEnd input position piece.bytes))
        ⟨input, [], .range piece :: locals, failures, none⟩ := by
  have matched : respond host.setup
      ⟨input, [.range piece], .range piece :: locals, failures, none⟩
      (.matchAt (pointer position)) = _ := respond_matchAt rfl rfl rfl inside
  rw [Host.resultFrom_sending, after_fetch, after_nil, Host.resultFrom_send, matched]

/-- The value of an assignment: the key, and the key again after the sign. -/
def twice (input : Bytes) (size : Nat) (fits : 2 * size + 1 ≤ input.length) : Value := .mapping [
  ("key", .range ⟨input, 0, size, Nat.zero_le size, by omega⟩),
  ("value", .range ⟨input, size + 1, 2 * size + 1, by omega, fits⟩)]

theorem scan_key (front : input.takeWhile lowercase = key) :
    scan lowercase input 0 = key.length := by
  rw [scan_start, front]

theorem key_begins (front : input.takeWhile lowercase = key) : key <+: input := by
  rw [← front]
  exact List.takeWhile_prefix lowercase

theorem bytes_key (front : input.takeWhile lowercase = key) (inside : key.length ≤ input.length) :
    InputRange.bytes ⟨input, 0, key.length, Nat.zero_le _, inside⟩ = key :=
  (List.prefix_iff_eq_take.mp (key_begins front)).symm

theorem assignment_without_key (front : input.takeWhile lowercase = key)
    (keyless : key.length = 0) :
    Host.FailsAt (host.resultFrom rule (assignment input) { input }) input 0 ["[a-z]"] [] := by
  simp only [assignment, scan_key front, keyless, if_true, failing, expected]
  rw [Host.resultFrom_sending, after_report (Nat.zero_le _) (by decide), after_nil]
  exact Host.failsAt_unmatched (Nat.zero_le _)

theorem assignment_without_sign (front : input.takeWhile lowercase = key) (keyed : key.length ≠ 0)
    (unsigned : input[key.length]? ≠ some 61) :
    Host.FailsAt (host.resultFrom rule (assignment input) { input }) input key.length
      ["\"=\"", "[a-z]"] [] := by
  have inside : key.length ≤ input.length := (key_begins front).length_le
  have before : "\"=\"" < "[a-z]" := by decide
  have reported : (Failures.record key.length "[a-z]" true {}).record key.length "\"=\"" true =
      ⟨some key.length, ["\"=\"", "[a-z]"], []⟩ := by
    simp only [Failures.record, Failures.add, insertReason, before, Nat.lt_irrefl, if_true,
      if_false]
  simp only [assignment, scan_key front, keyed, if_false, resultFrom_bindKey inside, at?, unsigned,
    ne_eq, not_false_eq_true, if_true, failing, expected]
  rw [Host.resultFrom_sending, after_report inside (by decide), after_report inside (by decide),
    after_release, after_nil, reported]
  exact Host.failsAt_unmatched inside

theorem assignment_without_repetition (front : input.takeWhile lowercase = key)
    (keyed : key.length ≠ 0) (signed : input[key.length]? = some 61)
    (differs : ¬key <+: input.drop (key.length + 1)) :
    Host.FailsAt (host.resultFrom rule (assignment input) { input }) input (key.length + 1) []
      ["value must repeat the key"] := by
  have inside : key.length + 1 ≤ input.length := (List.getElem?_eq_some_iff.mp signed).1
  have unanswered : matchEnd input (key.length + 1) key = none :=
    if_neg (mt List.isPrefixOf_iff_prefix.mp differs)
  simp only [assignment, scan_key front, keyed, if_false,
    resultFrom_bindKey (Nat.le_of_succ_le inside), at?, signed, ne_eq, not_true_eq_false,
    resultFrom_matchKey inside, bytes_key front, unanswered, failing]
  rw [Host.resultFrom_sending, after_report inside (by decide), after_release, after_nil]
  exact Host.failsAt_unmatched inside

/-- Where the key comes again, what follows decides. -/
theorem assignment_of_repetition (front : input.takeWhile lowercase = key)
    (keyed : key.length ≠ 0) (signed : input[key.length]? = some 61)
    (again : key <+: input.drop (key.length + 1)) (fits : 2 * key.length + 1 ≤ input.length) :
    if 2 * key.length + 1 < input.length then
      Host.FailsAt (host.resultFrom rule (assignment input) { input }) input (2 * key.length + 1)
        ["end of input"] []
    else
      host.resultFrom rule (assignment input) { input } = .ok (twice input key.length fits) := by
  have inside : key.length + 1 ≤ input.length := (List.getElem?_eq_some_iff.mp signed).1
  have answered : matchEnd input (key.length + 1) key = some (2 * key.length + 1) := by
    have final : key.length + 1 + key.length = 2 * key.length + 1 := by omega
    rw [matchEnd, if_pos (List.isPrefixOf_iff_prefix.mpr again), final]
  simp only [assignment, scan_key front, keyed, if_false,
    resultFrom_bindKey (Nat.le_of_succ_le inside), at?, signed, ne_eq, not_true_eq_false,
    resultFrom_matchKey inside, bytes_key front, answered]
  by_cases more : 2 * key.length + 1 < input.length
  · have unfinished : 2 * key.length + 1 ≠ input.length := Nat.ne_of_lt more
    rw [if_pos more, if_pos unfinished, failing, expected, Host.resultFrom_sending,
      after_report fits (by decide), after_release, after_nil]
    exact Host.failsAt_unmatched fits
  · have finished : ¬2 * key.length + 1 ≠ input.length := by omega
    rw [if_neg more, if_neg finished, succeeding, Host.resultFrom_sending, after_fetch,
      after_label (by decide), after_pushRange (by omega) fits, after_label (by decide),
      after_mergePair (by decide), after_release, after_nil]
    exact Host.resultFrom_matched

/-- The grammar, by what the rule looks at: the letters in front, the byte after them, whether they
come again, and whether anything follows. -/
theorem repetition_iff (front : input.takeWhile lowercase = key) :
    (∃ k, k ≠ [] ∧ (∀ byte ∈ k, lowercase byte = true) ∧ input = k ++ 61 :: k) ↔
      key.length ≠ 0 ∧ input[key.length]? = some 61 ∧ key <+: input.drop (key.length + 1) ∧
        input.length = 2 * key.length + 1 := by
  constructor
  · rintro ⟨k, nonempty, letters, rfl⟩
    have stops : (61 :: k).takeWhile lowercase = [] := rfl
    obtain rfl : k = key := by
      rw [← front, List.takeWhile_append_of_pos letters, stops, List.append_nil]
    refine ⟨mt List.length_eq_zero_iff.mp nonempty, by simp, by simp, ?_⟩
    rw [List.length_append, List.length_cons]
    omega
  · rintro ⟨nonempty, signed, again, total⟩
    have letters : ∀ byte ∈ key, lowercase byte = true := by
      rw [← front]
      exact fun byte member => List.mem_takeWhile_imp member
    have first : key = input.take key.length := List.prefix_iff_eq_take.mp (key_begins front)
    obtain ⟨inside, sign⟩ := List.getElem?_eq_some_iff.mp signed
    have second : key = input.drop (key.length + 1) := by
      refine again.eq_of_length ?_
      rw [List.length_drop]
      omega
    refine ⟨key, mt List.length_eq_zero_iff.mpr nonempty, letters, ?_⟩
    calc input = input.take key.length ++ input.drop key.length :=
          (List.take_append_drop ..).symm
      _ = key ++ 61 :: key := by
          rw [List.drop_eq_getElem_cons inside, sign, ← first, ← second]

theorem twice_fits (signed : input[key.length]? = some 61)
    (again : key <+: input.drop (key.length + 1)) : 2 * key.length + 1 ≤ input.length := by
  have inside := (List.getElem?_eq_some_iff.mp signed).1
  have length := again.length_le
  rw [List.length_drop] at length
  omega

/-- The rule fails to match, or the input is in the grammar and the rule gives its value. -/
theorem assignment_rejects_or_repeats (front : input.takeWhile lowercase = key) :
    (∃ position expectations otherReasons,
      Host.FailsAt (host.resultFrom rule (assignment input) { input }) input position expectations
        otherReasons) ∨
    ∃ fits, host.resultFrom rule (assignment input) { input } = .ok (twice input key.length fits) ∧
      ∃ k, k ≠ [] ∧ (∀ byte ∈ k, lowercase byte = true) ∧ input = k ++ 61 :: k := by
  by_cases keyless : key.length = 0
  · exact .inl ⟨_, _, _, assignment_without_key front keyless⟩
  by_cases signed : input[key.length]? = some 61
  · by_cases again : key <+: input.drop (key.length + 1)
    · have fits := twice_fits signed again
      have followed := @assignment_of_repetition host rule _ _ front keyless signed again fits
      split at followed
      · exact .inl ⟨_, _, _, followed⟩
      · have whole : input.length = 2 * key.length + 1 := by omega
        exact .inr ⟨fits, followed, (repetition_iff front).mpr ⟨keyless, signed, again, whole⟩⟩
    · exact .inl ⟨_, _, _, assignment_without_repetition front keyless signed again⟩
  · exact .inl ⟨_, _, _, assignment_without_sign front keyless signed⟩

end Assignment

/-- Whatever the input, the host's settings and what makes objects, the rule for assignments never
breaks the contract. Let `size` be the number of lowercase letters in front. The rule matches
exactly the inputs that are a key in lowercase letters, an equals sign (byte 61) and the key again,
and gives both ranges; otherwise it fails at byte 0 without letters, after them without a sign,
after the sign if the letters do not come again, and after those if something follows. -/
theorem assignment_recognises_repetition (config : Config) (factory : Factory) (input : Bytes) :
    let result := ((host config factory).parse "assignment" input).result
    let letter (byte : UInt8) : Bool := 97 ≤ byte && byte ≤ 122
    let key := input.takeWhile letter
    let size := key.length
    (∀ rule violation, result ≠ .error (.contract rule violation)) ∧
    ((∃ fits, result = .ok (twice input size fits)) ↔
      ∃ k, k ≠ [] ∧ (∀ byte ∈ k, letter byte = true) ∧ input = k ++ 61 :: k) ∧
    (size = 0 → Host.FailsAt result input 0 ["[a-z]"] []) ∧
    (size ≠ 0 → input[size]? ≠ some 61 →
      Host.FailsAt result input size ["\"=\"", "[a-z]"] []) ∧
    (size ≠ 0 → input[size]? = some 61 → ¬key <+: input.drop (size + 1) →
      Host.FailsAt result input (size + 1) [] ["value must repeat the key"]) ∧
    (size ≠ 0 → input[size]? = some 61 → key <+: input.drop (size + 1) →
      2 * size + 1 < input.length →
      Host.FailsAt result input (2 * size + 1) ["end of input"] []) := by
  intro result letter key size
  have followed : result =
      (host config factory).resultFrom "assignment" (assignment input) { input } :=
    Host.parse_resultFrom rfl
  -- The bounds of `letter` are those of the class that the rule scans for.
  have settled :=
    @assignment_rejects_or_repeats (host config factory) "assignment" input key rfl
  have repeated (keyed : key.length ≠ 0) (signed : input[key.length]? = some 61)
      (again : key <+: input.drop (key.length + 1)) :=
    @assignment_of_repetition (host config factory) "assignment" input key rfl keyed signed again
      (twice_fits signed again)
  rw [← followed] at settled
  refine ⟨fun rule violation => ?_, ⟨?_, fun repeats => ?_⟩,
    fun keyless => followed ▸ assignment_without_key rfl keyless,
    fun keyed unsigned => followed ▸ assignment_without_sign rfl keyed unsigned,
    fun keyed signed differs => followed ▸ assignment_without_repetition rfl keyed signed differs,
    fun keyed signed again more => ?_⟩
  · rcases settled with ⟨_, _, _, failed⟩ | ⟨_, accepted, _⟩
    · exact failed.ne_contract rule violation
    · rw [accepted]
      exact nofun
  · rintro ⟨_, accepted⟩
    rcases settled with ⟨_, _, _, failed⟩ | ⟨_, _, repeats⟩
    · exact absurd accepted (failed.ne_ok _)
    · exact repeats
  · obtain ⟨keyed, signed, again, whole⟩ := (@repetition_iff input key rfl).mp repeats
    have ends : ¬2 * key.length + 1 < input.length := by omega
    have settles := repeated keyed signed again
    rw [if_neg ends] at settles
    exact ⟨twice_fits signed again, followed.trans settles⟩
  · exact followed ▸ (if_pos more).mp (repeated keyed signed again)

/-- The bytes of `ab=ab`, nothing, `a:`, `ab=ac` and `a=aa`. -/
theorem assignment_recognises_doubled_key :
    let result (input : Bytes) := ((host {} .identity).parse "assignment" input).result
    (∃ fits, result [97, 98, 61, 97, 98] = .ok (twice [97, 98, 61, 97, 98] 2 fits)) ∧
    Host.FailsAt (result []) [] 0 ["[a-z]"] [] ∧
    Host.FailsAt (result [97, 58]) [97, 58] 1 ["\"=\"", "[a-z]"] [] ∧
    Host.FailsAt (result [97, 98, 61, 97, 99]) [97, 98, 61, 97, 99] 3 []
      ["value must repeat the key"] ∧
    Host.FailsAt (result [97, 61, 97, 97]) [97, 61, 97, 97] 3 ["end of input"] [] := by
  intro result
  have recognised := assignment_recognises_repetition {} .identity
  obtain ⟨_, accepts, _⟩ := recognised [97, 98, 61, 97, 98]
  obtain ⟨_, _, keyless, _⟩ := recognised []
  obtain ⟨_, _, _, unsigned, _⟩ := recognised [97, 58]
  obtain ⟨_, _, _, _, differs, _⟩ := recognised [97, 98, 61, 97, 99]
  obtain ⟨_, _, _, _, _, unfinished⟩ := recognised [97, 61, 97, 97]
  exact ⟨accepts.mpr ⟨[97, 98], by decide, List.all_eq_true.mp rfl, rfl⟩, keyless rfl,
    unsigned (by decide) (by decide), differs (by decide) (by decide) (by decide),
    unfinished (by decide) (by decide) (by decide) (by decide)⟩

end Samples
end MatcherHost
