import Mathlib.Data.Finset.Card
import MatcherHost.Proofs.Merging
import MatcherHost.Rules.Registry

/-! Registering rules one after another. What a name leads to is decided by the first registration
of it; every later one is refused and changes nothing, so the registry holds each name once. -/
namespace MatcherHost.Registry

variable {ε : Type}

def afterAll (registry : Registry ε) (calls : List (String × ε)) : Registry ε :=
  (registry.registerAll calls).1

/-- For each registration, the error that refused it. -/
def refusals (registry : Registry ε) (calls : List (String × ε)) : List (Option HostError) :=
  (registry.registerAll calls).2

/-! One registration is decided by the names that are there. -/

def grown (registry : Registry ε) (rule : String) (entry : ε) : Registry ε :=
  if rule ∈ registry.names then registry else ⟨registry.rules.insert rule entry⟩

def refusal? (registry : Registry ε) (rule : String) : Option HostError :=
  if rule ∈ registry.names then some (.duplicate rule) else none

theorem registerAll_cons (registry : Registry ε) (rule : String) (entry : ε)
    (rest : List (String × ε)) :
    registry.registerAll ((rule, entry) :: rest) =
      ((registry.grown rule entry).afterAll rest,
        registry.refusal? rule :: (registry.grown rule entry).refusals rest) := by
  cases found : registry.find? rule with
  | none =>
    have free : rule ∉ registry.names := Entries.get?_eq_none.mp found
    simp only [registerAll, register, found, grown, refusal?, if_neg free]
    rfl
  | some old =>
    have taken : rule ∈ registry.names := by
      by_contra free
      rw [find?, Entries.get?_eq_none.mpr free] at found
      contradiction
    simp only [registerAll, register, found, grown, refusal?, if_pos taken]
    rfl

theorem find?_grown (registry : Registry ε) (rule name : String) (entry : ε) :
    (registry.grown name entry).find? rule =
      (registry.find? rule).or (if rule = name then some entry else none) := by
  by_cases taken : name ∈ registry.names
  · rw [grown, if_pos taken]
    by_cases same : rule = name
    · obtain ⟨old, found⟩ : ∃ old, registry.find? rule = some old := by
        rw [← Option.ne_none_iff_exists', same]
        exact fun missing => Entries.get?_eq_none.mp missing taken
      rw [found, Option.some_or]
    · rw [if_neg same, Option.or_none]
  · rw [grown, if_neg taken, find?, Entries.get?_insert]
    by_cases same : rule = name
    · have missing : registry.find? rule = none := same ▸ Entries.get?_eq_none.mpr taken
      rw [if_pos same, if_pos same, missing, Option.none_or]
    · rw [if_neg same, if_neg same, Option.or_none]
      rfl

theorem grown_ascending {registry : Registry ε} (ascending : registry.rules.Ascending)
    (rule : String) (entry : ε) : (registry.grown rule entry).rules.Ascending := by
  unfold grown
  split
  · exact ascending
  · exact ascending.insert

/-! Any number of registrations. -/

/-- What was registered before stays, and of the names that were free the first registration
counts. -/
theorem find?_afterAll (registry : Registry ε) (calls : List (String × ε)) (rule : String) :
    (registry.afterAll calls).find? rule = (registry.find? rule).or (Entries.get? rule calls) := by
  induction calls generalizing registry with
  | nil => exact Option.or_none.symm
  | cons call rest ih =>
    obtain ⟨name, entry⟩ := call
    rw [afterAll, registerAll_cons, ih, find?_grown, Option.or_assoc, Entries.get?]
    by_cases same : rule = name
    · rw [if_pos same, if_pos same, Option.some_or]
    · rw [if_neg same, if_neg same, Option.none_or]

theorem mem_names_afterAll {registry : Registry ε} {calls : List (String × ε)} {rule : String} :
    rule ∈ (registry.afterAll calls).names ↔
      rule ∈ registry.names ∨ rule ∈ Entries.labels calls := by
  have found := find?_afterAll registry calls rule
  rw [← not_iff_not, not_or, names, names, ← Entries.get?_eq_none, ← Entries.get?_eq_none,
    ← Entries.get?_eq_none, ← Option.or_eq_none_iff]
  exact Eq.congr_left found

theorem afterAll_ascending {registry : Registry ε} (ascending : registry.rules.Ascending)
    (calls : List (String × ε)) : (registry.afterAll calls).rules.Ascending := by
  induction calls generalizing registry with
  | nil => exact ascending
  | cons call rest ih =>
    rw [afterAll, registerAll_cons]
    exact ih (grown_ascending ascending call.1 call.2)

theorem registerAll_append (registry : Registry ε) (first second : List (String × ε)) :
    registry.registerAll (first ++ second) =
      ((registry.afterAll first).afterAll second,
        registry.refusals first ++ (registry.afterAll first).refusals second) := by
  induction first generalizing registry with
  | nil => rfl
  | cons call rest ih =>
    obtain ⟨rule, entry⟩ := call
    simp only [List.cons_append, afterAll, refusals, registerAll_cons, ih]

theorem length_refusals (registry : Registry ε) (calls : List (String × ε)) :
    (registry.refusals calls).length = calls.length := by
  induction calls generalizing registry with
  | nil => rfl
  | cons call rest ih => rw [refusals, registerAll_cons, List.length_cons, ih, List.length_cons]

section New

variable {before later calls : List (String × ε)} {rule : String}

theorem names_afterAll_new : rule ∈ (afterAll {} calls).names ↔ rule ∈ Entries.labels calls := by
  rw [mem_names_afterAll]
  exact or_iff_right List.not_mem_nil

/-- A registration is answered by what the ones before it have left. -/
theorem getElem?_refusals (entry : ε) :
    (refusals {} (before ++ (rule, entry) :: later))[before.length]? =
      some (if rule ∈ Entries.labels before then some (.duplicate rule) else none) := by
  have all := congrArg Prod.snd (registerAll_append {} before ((rule, entry) :: later))
  rw [refusals, all, List.getElem?_append_right (length_refusals {} before).le, length_refusals,
    Nat.sub_self, refusals, registerAll_cons, List.getElem?_cons_zero, refusal?]
  simp only [names_afterAll_new]

theorem afterAll_repeated (repeated : rule ∈ Entries.labels before) (entry : ε) :
    afterAll {} (before ++ [(rule, entry)]) = afterAll {} before := by
  have taken : rule ∈ (afterAll {} before).names := names_afterAll_new.mpr repeated
  have all := congrArg Prod.fst (registerAll_append {} before [(rule, entry)])
  rw [afterAll, all, afterAll, registerAll_cons, grown, if_pos taken]
  rfl

theorem resolve_first (first : rule ∉ Entries.labels before) (entry : ε) :
    (afterAll {} (before ++ (rule, entry) :: later)).resolve rule = .ok entry := by
  have found : (afterAll {} (before ++ (rule, entry) :: later)).find? rule = some entry := by
    rw [find?_afterAll, Entries.get?_append, Entries.get?_eq_none.mpr first, Option.none_or,
      Entries.get?, if_pos rfl]
    exact Option.none_or
  simp only [resolve, found]

theorem resolve_missing (never : rule ∉ Entries.labels calls) :
    (afterAll {} calls).resolve rule = .error (.missing rule rule) := by
  have missing : (afterAll {} calls).find? rule = none := by
    rw [find?_afterAll, Entries.get?_eq_none.mpr never]
    rfl
  simp only [resolve, missing]

theorem names_nodup (calls : List (String × ε)) : (afterAll {} calls).names.Nodup :=
  (afterAll_ascending Entries.ascending_nil calls).nodup

theorem size_afterAll (calls : List (String × ε)) :
    (afterAll {} calls).size = (calls.map Prod.fst).toFinset.card := by
  have distinct : (calls.map Prod.fst).toFinset = (afterAll {} calls).names.toFinset := by
    ext rule
    rw [List.mem_toFinset, List.mem_toFinset, names_afterAll_new]
    rfl
  rw [distinct, List.toFinset_card_of_nodup (names_nodup calls)]
  exact (List.length_map Prod.fst).symm

end New

/-- Rules registered with a new registry one after another. A registration is refused, as a
duplicate of its name, exactly when an earlier one had the name, and then it leaves the registry as
it was. In the end every name leads to what was first registered under it, and a name that never was
is missing; the registered names are listed once each. -/
theorem first_registration_wins (calls : List (String × ε)) :
    let registry := afterAll {} calls
    (refusals {} calls).length = calls.length ∧
    (∀ before rule entry later, calls = before ++ (rule, entry) :: later →
      let answer := (refusals {} calls)[before.length]?
      (answer = some (some (.duplicate rule)) ↔ rule ∈ before.map Prod.fst) ∧
      (answer = some none ↔ rule ∉ before.map Prod.fst) ∧
      (rule ∈ before.map Prod.fst →
        afterAll {} (before ++ [(rule, entry)]) = afterAll {} before) ∧
      (rule ∉ before.map Prod.fst → registry.resolve rule = .ok entry)) ∧
    (∀ rule, rule ∉ calls.map Prod.fst → registry.resolve rule = .error (.missing rule rule)) ∧
    registry.names.Nodup ∧
    (∀ rule, rule ∈ registry.names ↔ rule ∈ calls.map Prod.fst) ∧
    registry.size = (calls.map Prod.fst).toFinset.card := by
  intro registry
  refine ⟨length_refusals {} calls, ?_, fun rule => resolve_missing, names_nodup calls,
    fun rule => names_afterAll_new, size_afterAll calls⟩
  rintro before rule entry later rfl answer
  have answered : answer = _ := getElem?_refusals entry
  refine ⟨?_, ?_, fun repeated => afterAll_repeated repeated entry,
    fun first => resolve_first first entry⟩
  · rw [answered]
    split <;> simp_all [Entries.labels]
  · rw [answered]
    split <;> simp_all [Entries.labels]

/-- The name of the first rule is taken when it is registered again. -/
theorem first_registration_wins_greeting :
    let calls := [("greeting", 1), ("point", 2), ("greeting", 3)]
    let registry := afterAll {} calls
    (refusals {} calls)[2]? = some (some (.duplicate "greeting")) ∧
    (refusals {} calls)[1]? = some none ∧
    afterAll {} calls = afterAll {} (calls.take 2) ∧
    registry.resolve "greeting" = .ok 1 ∧
    registry.resolve "point" = .ok 2 ∧
    registry.resolve "farewell" = .error (.missing "farewell" "farewell") ∧
    registry.size = 2 := by
  intro calls registry
  obtain ⟨-, each, missing, -, -, size⟩ := first_registration_wins calls
  obtain ⟨-, -, -, greeting⟩ := each [] "greeting" 1 [("point", 2), ("greeting", 3)] rfl
  obtain ⟨-, accepted, -, point⟩ := each [("greeting", 1)] "point" 2 [("greeting", 3)] rfl
  obtain ⟨refused, -, kept, -⟩ := each [("greeting", 1), ("point", 2)] "greeting" 3 [] rfl
  exact ⟨refused.mpr (by decide), accepted.mpr (by decide), kept (by decide),
    greeting (by decide), point (by decide), missing "farewell" (by decide), size⟩

end MatcherHost.Registry
