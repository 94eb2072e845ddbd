import Mathlib.Data.List.Induction
import Mathlib.Data.List.Sort
import MatcherHost.Reporting.Failures

/-! What is kept of a sequence of failure reports: the largest position, and each reason given
there once, in order. This depends on which reports were made and not on when or how often. -/
namespace MatcherHost

structure Report where
  position : Nat
  reason : String
  isExpectation : Bool
  deriving DecidableEq, Repr

theorem Report.eta_iff (report : Report) {reason : String} {kind : Bool} :
    ⟨report.position, reason, kind⟩ = report ↔
      reason = report.reason ∧ kind = report.isExpectation := by
  cases report
  simp

theorem mem_insertReason {reason other : String} {reasons : List String} :
    other ∈ insertReason reason reasons ↔ other = reason ∨ other ∈ reasons := by
  induction reasons with
  | nil => simp [insertReason]
  | cons first rest ih =>
    unfold insertReason
    split
    · exact List.mem_cons
    · split
      · rename_i same
        simp [same]
      · rw [List.mem_cons, ih, List.mem_cons]
        exact or_left_comm

theorem insertReason_ascending {reason : String} {reasons : List String}
    (ascending : reasons.Pairwise (· < ·)) : (insertReason reason reasons).Pairwise (· < ·) := by
  induction reasons with
  | nil => exact List.pairwise_singleton _ _
  | cons first rest ih =>
    obtain ⟨least, tail⟩ := List.pairwise_cons.mp ascending
    unfold insertReason
    split
    · rename_i before
      refine List.pairwise_cons.mpr ⟨fun other member => ?_, ascending⟩
      rcases List.mem_cons.mp member with rfl | later
      · exact before
      · exact String.lt_trans before (least other later)
    · split
      · exact ascending
      · rename_i notBefore different
        refine List.pairwise_cons.mpr ⟨fun other member => ?_, ih tail⟩
        rcases mem_insertReason.mp member with rfl | later
        · exact Std.lt_of_le_of_ne (String.not_lt.mp notBefore) (Ne.symm different)
        · exact least other later

namespace Failures

def enter (failures : Failures) (report : Report) : Failures :=
  failures.record report.position report.reason report.isExpectation

def ofReports (reports : List Report) : Failures := reports.foldl enter {}

def reasons (isExpectation : Bool) (failures : Failures) : List String :=
  if isExpectation then failures.expectations else failures.otherReasons

@[simp] theorem add_position (reason : String) (kind : Bool) (failures : Failures) :
    (failures.add reason kind).position = failures.position := by
  cases kind <;> rfl

theorem add_reasons (reason : String) (kind other : Bool) (failures : Failures) :
    (failures.add reason kind).reasons other =
      if other = kind then insertReason reason (failures.reasons other)
      else failures.reasons other := by
  cases kind <;> cases other <;> rfl

theorem mem_add_reasons {reason other : String} {kind given : Bool} {failures : Failures} :
    other ∈ (failures.add reason given).reasons kind ↔
      (other = reason ∧ kind = given) ∨ other ∈ failures.reasons kind := by
  rw [add_reasons]
  split
  · rename_i same
    rw [mem_insertReason]
    simp [same]
  · rename_i different
    simp [different]

theorem add_ascending {reason : String} {given : Bool} {failures : Failures}
    (ascending : ∀ kind, (failures.reasons kind).Pairwise (· < ·)) (kind : Bool) :
    ((failures.add reason given).reasons kind).Pairwise (· < ·) := by
  rw [add_reasons]
  split
  · exact insertReason_ascending (ascending kind)
  · exact ascending kind

@[simp] theorem reasons_at (position : Nat) (kind : Bool) :
    (Failures.mk (some position) [] []).reasons kind = [] := by
  cases kind <;> rfl

/-- A report is stale, or as far as the furthest, or starts afresh. -/
theorem enter_cases (failures : Failures) (report : Report) :
    (∃ furthest, failures.position = some furthest ∧ report.position < furthest ∧
      failures.enter report = failures) ∨
    (failures.position = some report.position ∧
      failures.enter report = failures.add report.reason report.isExpectation) ∨
    ((∀ furthest, failures.position = some furthest → furthest < report.position) ∧
      failures.enter report =
        add report.reason report.isExpectation ⟨some report.position, [], []⟩) := by
  unfold enter record
  cases known : failures.position with
  | none => exact .inr (.inr ⟨nofun, rfl⟩)
  | some furthest =>
    rcases Nat.lt_trichotomy report.position furthest with stale | same | further
    · exact .inl ⟨furthest, rfl, stale, by simp [stale]⟩
    · exact .inr (.inl ⟨by rw [same], by simp [same]⟩)
    · refine .inr (.inr ⟨fun other here => Option.some.inj here ▸ further, ?_⟩)
      simp [Nat.not_lt.mpr (Nat.le_of_lt further), Nat.ne_of_gt further]

theorem enter_position {failures : Failures} {report : Report} {reached : Nat}
    (recorded : (failures.enter report).position = some reached) :
    failures.position = some reached ∨ report.position = reached := by
  rcases failures.enter_cases report with ⟨_, _, _, same⟩ | ⟨_, same⟩ | ⟨_, same⟩
  · rw [same] at recorded
    exact .inl recorded
  · rw [same, add_position] at recorded
    exact .inl recorded
  · rw [same, add_position] at recorded
    exact .inr (Option.some.inj recorded)

/-- The failures that reports amount to. -/
structure Summarises (reports : List Report) (failures : Failures) : Prop where
  position : failures.position = (reports.map Report.position).max?
  ascending : ∀ kind, (failures.reasons kind).Pairwise (· < ·)
  mem_reasons : ∀ kind reason, reason ∈ failures.reasons kind ↔
    ∃ furthest, failures.position = some furthest ∧ ⟨furthest, reason, kind⟩ ∈ reports

theorem furthest_iff {reports : List Report} {furthest : Nat} :
    (reports.map Report.position).max? = some furthest ↔
      (∃ report ∈ reports, report.position = furthest) ∧
        ∀ report ∈ reports, report.position ≤ furthest := by
  rw [List.max?_eq_some_iff, List.mem_map, List.forall_mem_map]

theorem furthest_concat {reports : List Report} {report : Report} {furthest : Nat}
    (reached : (∃ other ∈ reports, other.position = furthest) ∨ report.position = furthest)
    (earlier : ∀ other ∈ reports, other.position ≤ furthest) (last : report.position ≤ furthest) :
    ((reports ++ [report]).map Report.position).max? = some furthest := by
  refine furthest_iff.mpr ⟨?_, List.forall_mem_append.mpr ⟨earlier, by simpa using last⟩⟩
  rcases reached with ⟨other, member, here⟩ | here
  · exact ⟨other, List.mem_append_left _ member, here⟩
  · exact ⟨report, by simp, here⟩

theorem summarises_nil : Summarises [] {} where
  position := rfl
  ascending kind := by cases kind <;> exact .nil
  mem_reasons kind reason := by cases kind <;> simp [reasons]

namespace Summarises

variable {reports : List Report} {failures : Failures}

/-- One more report. A stale one is not at the furthest position and changes nothing; one that goes
further leaves every earlier report behind it. -/
theorem enter (summary : Summarises reports failures) (report : Report) :
    Summarises (reports ++ [report]) (failures.enter report) := by
  rcases failures.enter_cases report with
    ⟨furthest, known, stale, same⟩ | ⟨known, same⟩ | ⟨further, same⟩
  · obtain ⟨reached, bound⟩ := furthest_iff.mp (summary.position.symm.trans known)
    have position := furthest_concat (.inl reached) bound (Nat.le_of_lt stale)
    rw [same]
    refine ⟨known.trans position.symm, summary.ascending, fun kind reason => ?_⟩
    rw [summary.mem_reasons]
    refine exists_congr fun place => and_congr_right fun here => ?_
    have apart : (⟨place, reason, kind⟩ : Report) ≠ report := by
      rintro rfl
      have : place = furthest := Option.some.inj (here.symm.trans known)
      exact absurd stale (by simp [this])
    simp [apart]
  · obtain ⟨reached, bound⟩ := furthest_iff.mp (summary.position.symm.trans known)
    have position := furthest_concat (.inl reached) bound (Nat.le_refl report.position)
    rw [same]
    refine ⟨?_, add_ascending summary.ascending, fun kind reason => ?_⟩
    · rw [add_position, known, position]
    · rw [mem_add_reasons, summary.mem_reasons, add_position, known]
      simp [← report.eta_iff, or_comm]
  · have bound (other : Report) (member : other ∈ reports) : other.position < report.position := by
      cases known : failures.position with
      | none =>
        rw [summary.position, List.max?_eq_none_iff, List.map_eq_nil_iff] at known
        simp [known] at member
      | some furthest =>
        have before := (furthest_iff.mp (summary.position.symm.trans known)).2 other member
        exact Nat.lt_of_le_of_lt before (further furthest known)
    have position := furthest_concat (.inr rfl)
      (fun other member => Nat.le_of_lt (bound other member)) (Nat.le_refl report.position)
    rw [same]
    refine ⟨?_, add_ascending fun kind => ?_, fun kind reason => ?_⟩
    · rw [add_position, position]
    · rw [reasons_at]
      exact .nil
    · have left : (⟨report.position, reason, kind⟩ : Report) ∉ reports := by
        intro member
        have ahead := bound _ member
        exact Nat.lt_irrefl _ ahead
      rw [mem_add_reasons, add_position, reasons_at]
      simp [left, ← report.eta_iff]

theorem eq_of_mem_iff {others : List Report} {later : Failures}
    (summary : Summarises reports failures) (other : Summarises others later)
    (same : ∀ report, report ∈ reports ↔ report ∈ others) : failures = later := by
  have positions : failures.position = later.position := by
    rw [summary.position, other.position]
    refine Option.ext fun furthest => ?_
    rw [furthest_iff, furthest_iff]
    simp only [same]
  have reasons (kind : Bool) : failures.reasons kind = later.reasons kind := by
    refine (summary.ascending kind).eq_of_mem_iff (other.ascending kind) fun reason => ?_
    rw [summary.mem_reasons, other.mem_reasons, positions]
    simp only [same]
  obtain ⟨position, expectations, otherReasons⟩ := failures
  obtain ⟨position', expectations', otherReasons'⟩ := later
  rw [Failures.mk.injEq]
  exact ⟨positions, reasons true, reasons false⟩

end Summarises

theorem summarises_ofReports (reports : List Report) : Summarises reports (ofReports reports) := by
  induction reports using List.reverseRecOn with
  | nil => exact summarises_nil
  | append_singleton earlier report ih =>
    rw [ofReports, List.foldl_append]
    exact ih.enter report

/-- The law of the furthest failure. Without reports there is none. Otherwise its position is the
largest one reported, and the reasons of either kind are those reported there, each once and in
code point order. -/
theorem furthest_law (reports : List Report) :
    let failures := ofReports reports
    (failures.clear = true ↔ reports = []) ∧
    (reports ≠ [] → ∃ furthest, failures.position = some furthest ∧
      (∃ report ∈ reports, report.position = furthest) ∧
      (∀ report ∈ reports, report.position ≤ furthest) ∧
      failures.expectations.Pairwise (· < ·) ∧
      (∀ reason, reason ∈ failures.expectations ↔ ⟨furthest, reason, true⟩ ∈ reports) ∧
      failures.otherReasons.Pairwise (· < ·) ∧
      (∀ reason, reason ∈ failures.otherReasons ↔ ⟨furthest, reason, false⟩ ∈ reports)) := by
  intro failures
  have summary : Summarises reports failures := summarises_ofReports reports
  have unreported : failures.position = none ↔ reports = [] := by
    rw [summary.position, List.max?_eq_none_iff, List.map_eq_nil_iff]
  constructor
  · rw [clear, Option.isNone_iff_eq_none, unreported]
  · intro reported
    obtain ⟨furthest, known⟩ := Option.ne_none_iff_exists'.mp (mt unreported.mp reported)
    obtain ⟨reached, bound⟩ := furthest_iff.mp (summary.position.symm.trans known)
    have given (kind : Bool) (reason : String) :
        reason ∈ failures.reasons kind ↔ ⟨furthest, reason, kind⟩ ∈ reports := by
      rw [summary.mem_reasons, known]
      simp
    exact ⟨furthest, known, reached, bound, summary.ascending true, given true,
      summary.ascending false, given false⟩

theorem furthest_law_letters :
    let reports : List Report :=
      [⟨5, "letter", true⟩, ⟨3, "sign", true⟩, ⟨5, "digit", true⟩, ⟨5, "letter", true⟩]
    let failures := ofReports reports
    reports ≠ [] ∧ failures.position = some 5 ∧ "digit" ∈ failures.expectations ∧
    "sign" ∉ failures.expectations := by
  intro reports failures
  have reported : reports ≠ [] := by decide
  obtain ⟨furthest, known, _, _, _, given, _⟩ := (furthest_law reports).2 reported
  have five : failures.position = some 5 := by decide +kernel
  obtain rfl := Option.some.inj (known.symm.trans five)
  refine ⟨reported, five, (given "digit").mpr (by decide), fun stale => ?_⟩
  exact absurd ((given "sign").mp stale) (by decide)

end Failures
end MatcherHost
