import Mathlib.Data.List.Sort
import MatcherHost.Proofs.Denials

/-! Merging labelled values. A merge takes values from the top of the stack down, and each one wins
over those taken before it; so what it makes is determined label by label, by the deepest value that
has the label. How the values are grouped does not matter, and neither does their order while no two
of them share a label. -/
namespace MatcherHost

namespace Entries

variable {α : Type} {label : String} {entries : Entries α}

theorem get?_append (first second : Entries α) :
    get? label (first ++ second) = (get? label first).or (get? label second) := by
  induction first with
  | nil => rfl
  | cons entry rest ih =>
    obtain ⟨other, value⟩ := entry
    by_cases same : label = other
    · simp [get?, same]
    · simp [get?, same, ih]

theorem get?_eq_none : get? label entries = none ↔ label ∉ entries.labels := by
  induction entries with
  | nil => simp [get?, labels]
  | cons entry rest ih =>
    obtain ⟨other, value⟩ := entry
    by_cases same : label = other
    · simp [get?, labels, same]
    · simpa [get?, labels, same] using ih

/-- Entries are found by their labels where no label is listed twice. -/
theorem get?_eq_some {value : α} (distinct : entries.labels.Nodup) :
    get? label entries = some value ↔ (label, value) ∈ entries := by
  induction entries with
  | nil => simp [get?]
  | cons entry rest ih =>
    obtain ⟨other, old⟩ := entry
    obtain ⟨absent, distinct⟩ := List.nodup_cons.mp distinct
    by_cases same : label = other
    · subst same
      have unlisted : (label, value) ∉ rest := fun member =>
        absent (List.mem_map.mpr ⟨_, member, rfl⟩)
      simp [get?, unlisted, eq_comm]
    · simp [get?, same, ih distinct]

theorem mem_labels_reverse : label ∈ labels entries.reverse ↔ label ∈ entries.labels := by
  rw [labels, labels, List.map_reverse, List.mem_reverse]

theorem ascending_nil : Ascending ([] : Entries α) := List.Pairwise.nil

theorem Ascending.nodup (ascending : entries.Ascending) : entries.labels.Nodup := by
  refine List.Pairwise.imp ?_ ascending
  rintro label _ before rfl
  exact String.lt_irrefl label before

theorem Ascending.get?_reverse (ascending : entries.Ascending) :
    get? label entries.reverse = get? label entries := by
  have distinct : (labels entries.reverse).Nodup := by
    rw [labels, List.map_reverse]
    exact List.nodup_reverse.mpr ascending.nodup
  refine Option.ext fun value => ?_
  rw [get?_eq_some distinct, get?_eq_some ascending.nodup, List.mem_reverse]

/-- Entries in label order are determined by what is found under each label. -/
theorem Ascending.ext {first second : Entries α} (ascending : first.Ascending)
    (ascendingToo : second.Ascending) (same : ∀ label, get? label first = get? label second) :
    first = second := by
  let before : String × α → String × α → Prop := fun entry other => entry.1 < other.1
  have : Std.Irrefl before := ⟨fun entry => String.lt_irrefl entry.1⟩
  have : Std.Antisymm before := ⟨fun _ _ less greater =>
    absurd (String.lt_trans less greater) (String.lt_irrefl _)⟩
  have ordered : first.Pairwise before := List.pairwise_map.mp ascending
  refine ordered.eq_of_mem_iff (List.pairwise_map.mp ascendingToo) fun entry => ?_
  obtain ⟨label, value⟩ := entry
  rw [← get?_eq_some ascending.nodup, ← get?_eq_some ascendingToo.nodup, same]

/-- The newer entries win, and among them the one that comes last. -/
theorem get?_update (older newer : Entries α) :
    get? label (update older newer) = (get? label newer.reverse).or (get? label older) := by
  induction newer generalizing older with
  | nil => rfl
  | cons entry rest ih =>
    have step : update older (entry :: rest) = update (insert entry.1 entry.2 older) rest := rfl
    rw [step, ih, List.reverse_cons, get?_append, Option.or_assoc, get?_insert]
    by_cases same : label = entry.1
    · simp [get?, same]
    · simp [get?, same]

theorem mem_labels_update {older newer : Entries α} :
    label ∈ (update older newer).labels ↔ label ∈ older.labels ∨ label ∈ newer.labels := by
  rw [← not_iff_not, ← get?_eq_none, get?_update, Option.or_eq_none_iff, get?_eq_none,
    get?_eq_none, mem_labels_reverse, not_or, and_comm]

theorem update_nil_left (ascending : entries.Ascending) : update [] entries = entries := by
  refine Ascending.ext (ascending_nil.update entries) ascending fun label => ?_
  rw [get?_update, ascending.get?_reverse]
  exact Option.or_none

/-- Entries without a common label may be added in either order. -/
theorem update_comm {older first second : Entries α} (ascending : older.Ascending)
    (apart : ∀ label ∈ first.labels, label ∉ second.labels) :
    update (update older first) second = update (update older second) first := by
  refine Ascending.ext ((ascending.update first).update second)
    ((ascending.update second).update first) fun label => ?_
  simp only [get?_update]
  by_cases listed : label ∈ first.labels
  · have unlisted : get? label second.reverse = none := by
      rw [get?_eq_none, mem_labels_reverse]
      exact apart label listed
    rw [unlisted, Option.none_or, Option.none_or]
  · have unlisted : get? label first.reverse = none := by
      rwa [get?_eq_none, mem_labels_reverse]
    rw [unlisted, Option.none_or, Option.none_or]

end Entries

namespace Value

def entries (value : Value) : Entries Value := value.entries?.getD []

def labels (value : Value) : List String := value.entries.labels

def Apart (value other : Value) : Prop := ∀ label ∈ value.labels, label ∉ other.labels

instance (value other : Value) : Decidable (value.Apart other) :=
  inferInstanceAs (Decidable (∀ label ∈ value.labels, label ∉ other.labels))

/-- Values that may be merged but add nothing. -/
def isVacant : Value → Bool
  | .empty | .mapping [] => true
  | _ => false

theorem entries_mapping (entries : Entries Value) : (mapping entries).entries = entries := rfl

theorem get?_eq (label : String) (value : Value) :
    value.get? label = Entries.get? label value.entries := by
  cases value <;> rfl

theorem get?_eq_none {label : String} {value : Value} :
    value.get? label = none ↔ label ∉ value.labels := by
  rw [get?_eq]
  exact Entries.get?_eq_none

theorem entries?_of_labelled {value : Value} (labelled : value.kind.labelled = true) :
    value.entries? = some value.entries := by
  rw [labelled_kind] at labelled
  obtain ⟨entries, found⟩ := Option.isSome_iff_exists.mp labelled
  rw [Value.entries, found, Option.getD_some]

theorem Apart.symm {value other : Value} (apart : value.Apart other) : other.Apart value :=
  fun label member listed => apart label listed member

theorem isVacant_iff {value : Value} :
    value.isVacant = true ↔ value.kind.labelled = true ∧ value.entries = [] := by
  cases value with
  | mapping entries => cases entries <;> simp [isVacant, kind, Kind.labelled, entries_mapping]
  | _ => simp [isVacant, kind, Kind.labelled, entries, entries?]

end Value

namespace Stack

/-- The entries of values taken one after the other, the later the stronger, on top of those merged
already. -/
def collect (merged : Entries Value) (values : List Value) : Entries Value :=
  values.foldl (fun merged value => merged.update value.entries) merged

variable {merged : Entries Value} {values : List Value}

theorem collect_cons (value : Value) :
    collect merged (value :: values) = collect (merged.update value.entries) values := rfl

theorem collect_append (more : List Value) :
    collect merged (values ++ more) = collect (collect merged values) more :=
  List.foldl_append

theorem collect_ascending (ascending : merged.Ascending) : (collect merged values).Ascending := by
  induction values generalizing merged with
  | nil => exact ascending
  | cons value rest ih => exact ih (ascending.update value.entries)

theorem gather_collects (merged : Entries Value) (rest : Stack)
    (labelled : ∀ value ∈ values, value.kind.labelled = true) :
    gather values.length merged (values ++ rest) =
      .done (.mapping (collect merged values) :: rest) := by
  induction values generalizing merged with
  | nil => rfl
  | cons value values ih =>
    obtain ⟨first, later⟩ := List.forall_mem_cons.mp labelled
    simp only [List.length_cons, List.cons_append, gather, Value.entries?_of_labelled first,
      collect_cons]
    exact ih (merged.update value.entries) later

/-- What a merge of labelled values does, in one equation. -/
theorem mergeLabels_collects (rest : Stack)
    (labelled : ∀ value ∈ values, value.kind.labelled = true) :
    mergeLabels values.length (values ++ rest) = .done (.mapping (collect [] values) :: rest) := by
  have enough : ¬(values ++ rest).length < values.length := by
    rw [List.length_append]
    omega
  rw [mergeLabels, if_neg enough, gather_collects [] rest labelled]

theorem gather_served {count : Nat} {stack : Stack}
    (served : (gather count merged stack).refusal = none) :
    ∃ values rest, stack = values ++ rest ∧ values.length = count ∧
      ∀ value ∈ values, value.kind.labelled = true := by
  induction count generalizing merged stack with
  | zero => exact ⟨[], stack, rfl, rfl, List.forall_mem_nil _⟩
  | succ count ih =>
    cases stack with
    | nil => contradiction
    | cons top below =>
      cases found : top.entries? with
      | none => simp [gather, found] at served
      | some entries =>
        simp only [gather, found] at served
        obtain ⟨values, rest, rfl, rfl, labelled⟩ := ih served
        have first : top.kind.labelled = true := by rw [Value.labelled_kind, found]; rfl
        exact ⟨top :: values, rest, rfl, rfl, List.forall_mem_cons.mpr ⟨first, labelled⟩⟩

/-- Nothing but labelled values is ever merged. -/
theorem mergeLabels_served {count : Nat} {stack : Stack}
    (served : (mergeLabels count stack).refusal = none) :
    ∃ values rest, stack = values ++ rest ∧ values.length = count ∧
      ∀ value ∈ values, value.kind.labelled = true := by
  unfold mergeLabels at served
  split at served
  · contradiction
  · exact gather_served served

/-- A label is looked up from the deepest value upwards. -/
theorem get?_collect (label : String) (keyed : ∀ value ∈ values, value.entries.Ascending) :
    Entries.get? label (collect merged values) =
      (values.reverse.findSome? (·.get? label)).or (Entries.get? label merged) := by
  induction values generalizing merged with
  | nil => rfl
  | cons value rest ih =>
    obtain ⟨first, later⟩ := List.forall_mem_cons.mp keyed
    rw [collect_cons, ih later, Entries.get?_update, first.get?_reverse, ← Value.get?_eq,
      List.reverse_cons, List.findSome?_append, Option.or_assoc]
    simp

theorem get?_collect_eq_some {label : String} {found : Value}
    (keyed : ∀ value ∈ values, value.entries.Ascending) :
    Entries.get? label (collect [] values) = some found ↔
      ∃ above value deeper, values = above ++ value :: deeper ∧ value.get? label = some found ∧
        ∀ other ∈ deeper, other.get? label = none := by
  have lookup : Entries.get? label (collect [] values) =
      values.reverse.findSome? (·.get? label) := (get?_collect label keyed).trans Option.or_none
  rw [lookup, List.findSome?_eq_some_iff]
  constructor
  · rintro ⟨deeper, value, above, split, has, without⟩
    refine ⟨above.reverse, value, deeper.reverse, ?_, has, ?_⟩
    · rw [← List.reverse_reverse values, split]
      simp
    · simpa using without
  · rintro ⟨above, value, deeper, split, has, without⟩
    refine ⟨deeper.reverse, value, above.reverse, ?_, has, ?_⟩
    · rw [split]
      simp
    · simpa using without

theorem mem_labels_collect {label : String} :
    label ∈ (collect merged values).labels ↔
      label ∈ merged.labels ∨ ∃ value ∈ values, label ∈ value.labels := by
  induction values generalizing merged with
  | nil => simp [collect]
  | cons value rest ih =>
    rw [collect_cons, ih, Entries.mem_labels_update, or_assoc]
    simp [Value.labels]

theorem labelled_filter :
    (∀ value ∈ values.filter (!·.isVacant), value.kind.labelled = true) ↔
      ∀ value ∈ values, value.kind.labelled = true := by
  constructor
  · intro labelled value member
    cases vacant : value.isVacant with
    | true => exact (Value.isVacant_iff.mp vacant).1
    | false => exact labelled value (List.mem_filter.mpr ⟨member, by simp [vacant]⟩)
  · intro labelled value member
    exact labelled value (List.mem_filter.mp member).1

/-- Values that add nothing can be left out. -/
theorem collect_filter :
    collect merged (values.filter (!·.isVacant)) = collect merged values := by
  induction values generalizing merged with
  | nil => rfl
  | cons value rest ih =>
    cases vacant : value.isVacant with
    | false =>
      rw [List.filter_cons_of_pos (by simp [vacant]), collect_cons, collect_cons, ih]
    | true =>
      obtain ⟨_, none⟩ := Value.isVacant_iff.mp vacant
      rw [List.filter_cons_of_neg (by simp [vacant]), ih, collect_cons, none]
      rfl

/-- The order of values that share no label does not matter. -/
theorem collect_perm {permuted : List Value} (ascending : merged.Ascending)
    (apart : values.Pairwise Value.Apart) (perm : values.Perm permuted) :
    collect merged values = collect merged permuted := by
  induction perm generalizing merged with
  | nil => rfl
  | cons value _ ih =>
    exact ih (ascending.update value.entries) (List.pairwise_cons.mp apart).2
  | swap first second rest =>
    obtain ⟨others, _⟩ := List.pairwise_cons.mp apart
    have exchanged := Entries.update_comm ascending (others first List.mem_cons_self)
    rw [collect_cons, collect_cons, exchanged]
    rfl
  | trans earlier _ ih ihToo =>
    rw [ih ascending apart, ihToo ascending (earlier.pairwise apart Value.Apart.symm)]

/-- A merge of values each of which is empty or a mapping, in label order as mappings are, succeeds.
It replaces them by one mapping in label order that has the labels any of them has, each with the
entry of the deepest value that has it; what lies beneath stays. -/
theorem mergeLabels_deepest_wins (values rest : Stack)
    (labelled : ∀ value ∈ values, value.kind.labelled = true)
    (keyed : ∀ value ∈ values, value.entries.Ascending) :
    ∃ merged : Entries Value,
      mergeLabels values.length (values ++ rest) = .done (.mapping merged :: rest) ∧
      merged.Ascending ∧
      (∀ label, label ∈ merged.labels ↔ ∃ value ∈ values, label ∈ value.labels) ∧
      ∀ label found, (Value.mapping merged).get? label = some found ↔
        ∃ above value deeper, values = above ++ value :: deeper ∧
          value.get? label = some found ∧ ∀ other ∈ deeper, label ∉ other.labels := by
  refine ⟨collect [] values, mergeLabels_collects rest labelled,
    collect_ascending Entries.ascending_nil, fun label => ?_, fun label found => ?_⟩
  · rw [mem_labels_collect]
    simp [Entries.labels]
  · simp only [← Value.get?_eq_none]
    exact get?_collect_eq_some keyed

theorem mergeLabels_deepest_wins_collision :
    let values : Stack := [.mapping [("a", .text "top"), ("c", .empty)], .empty,
      .mapping [("a", .text "deep"), ("b", .boolean true)]]
    let rest : Stack := [.text "kept"]
    (∀ value ∈ values, value.kind.labelled = true) ∧
    (∀ value ∈ values, value.entries.Ascending) ∧
    ∃ merged : Entries Value, mergeLabels 3 (values ++ rest) = .done (.mapping merged :: rest) ∧
      merged.Ascending ∧ (Value.mapping merged).get? "a" = some (.text "deep") ∧
      "c" ∈ merged.labels := by
  intro values rest
  have labelled : ∀ value ∈ values, value.kind.labelled = true := by decide
  have keyed : ∀ value ∈ values, value.entries.Ascending := by decide
  obtain ⟨merged, replaced, ascending, has, found⟩ :=
    mergeLabels_deepest_wins values rest labelled keyed
  refine ⟨labelled, keyed, merged, replaced, ascending, ?_, ?_⟩
  · exact (found "a" (.text "deep")).mpr ⟨List.take 2 values, _, [], rfl, rfl, nofun⟩
  · exact (has "c").mpr ⟨_, List.mem_cons_self, by decide⟩

/-- Merges may be grouped: merging the upper values first and then the result with the lower ones is
merging all at once. Values that add nothing may be put in or left out. Where no two values share a
label, their order does not matter either. -/
theorem mergeLabels_regroups (upper lower rest : Stack)
    (labelled : ∀ value ∈ upper ++ lower, value.kind.labelled = true) :
    ∃ merged : Entries Value,
      mergeLabels (upper.length + lower.length) (upper ++ lower ++ rest) =
        .done (.mapping merged :: rest) ∧
      (∃ inner, mergeLabels upper.length (upper ++ lower ++ rest) = .done inner ∧
        mergeLabels (lower.length + 1) inner = .done (.mapping merged :: rest)) ∧
      (∀ values : Stack, values.filter (!·.isVacant) = (upper ++ lower).filter (!·.isVacant) →
        mergeLabels values.length (values ++ rest) = .done (.mapping merged :: rest)) ∧
      ((upper ++ lower).Pairwise Value.Apart → ∀ values : Stack, values.Perm (upper ++ lower) →
        mergeLabels values.length (values ++ rest) = .done (.mapping merged :: rest)) := by
  obtain ⟨labelledUpper, labelledLower⟩ := List.forall_mem_append.mp labelled
  refine ⟨collect [] (upper ++ lower), ?_, ?_, fun values same => ?_, fun apart values perm => ?_⟩
  · rw [← List.length_append]
    exact mergeLabels_collects rest labelled
  · refine ⟨.mapping (collect [] upper) :: (lower ++ rest), ?_, ?_⟩
    · rw [List.append_assoc]
      exact mergeLabels_collects (lower ++ rest) labelledUpper
    · have inner := @mergeLabels_collects (.mapping (collect [] upper) :: lower) rest
        (List.forall_mem_cons.mpr ⟨rfl, labelledLower⟩)
      -- What the first merge made is in label order, so the second one takes it over as it is.
      have upperFirst : Entries.update [] (collect [] upper) = collect [] upper :=
        Entries.update_nil_left (collect_ascending Entries.ascending_nil)
      rwa [collect_cons, Value.entries_mapping, upperFirst, ← collect_append] at inner
  · have labelledToo : ∀ value ∈ values, value.kind.labelled = true := by
      rw [← labelled_filter, same, labelled_filter]
      exact labelled
    rw [mergeLabels_collects rest labelledToo, ← collect_filter, same, collect_filter]
  · have labelledToo : ∀ value ∈ values, value.kind.labelled = true :=
      fun value member => labelled value (perm.mem_iff.mp member)
    rw [mergeLabels_collects rest labelledToo,
      collect_perm Entries.ascending_nil apart perm.symm]

theorem mergeLabels_regroups_apart :
    let label : Value := .mapping [("b", .boolean true)]
    let lower : Stack := [.mapping [("a", .text "x"), ("c", .empty)]]
    let rest : Stack := [.text "kept"]
    (∀ value ∈ [label, .empty] ++ lower, value.kind.labelled = true) ∧
    ([label, .empty] ++ lower).Pairwise Value.Apart ∧
    ∃ merged : Entries Value,
      (∃ inner, mergeLabels 2 ([label, .empty] ++ lower ++ rest) = .done inner ∧
        mergeLabels 2 inner = .done (.mapping merged :: rest)) ∧
      mergeLabels 2 ([label] ++ lower ++ rest) = .done (.mapping merged :: rest) ∧
      mergeLabels 3 (lower ++ [label, .empty] ++ rest) = .done (.mapping merged :: rest) := by
  intro label lower rest
  have labelled : ∀ value ∈ [label, .empty] ++ lower, value.kind.labelled = true := by decide
  have apart : ([label, .empty] ++ lower).Pairwise Value.Apart := by decide
  obtain ⟨merged, _, grouped, padded, permuted⟩ :=
    mergeLabels_regroups [label, .empty] lower rest labelled
  exact ⟨labelled, apart, merged, grouped, padded ([label] ++ lower) rfl,
    permuted apart (lower ++ [label, .empty]) List.perm_append_comm⟩

end Stack
end MatcherHost
