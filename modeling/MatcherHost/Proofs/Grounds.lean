import MatcherHost.Proofs.Denials
import MatcherHost.Proofs.Spelling

/-! The grounds on which a signal is refused. An open session refuses a signal exactly if there are
grounds for it, and records the violation that they name: of the arguments the first that makes no
sense, and only if all of them do, what stops the call they amount to. -/
namespace MatcherHost

namespace Argument

/-- The pointer is at a byte of the input or at its end. -/
def PointsInto (length : Nat) (pointer : Option Int) : Prop :=
  ∃ offset : Nat, pointer = some ↑offset ∧ offset ≤ length

instance (length : Nat) (pointer : Option Int) : Decidable (PointsInto length pointer) :=
  match pointer with
  | none => isFalse nofun
  | some distance =>
    decidable_of_iff (0 ≤ distance ∧ distance.toNat ≤ length) <| by
      constructor
      · rintro ⟨positive, bound⟩
        exact ⟨distance.toNat, by rw [Int.toNat_of_nonneg positive], bound⟩
      · rintro ⟨offset, same, bound⟩
        obtain rfl := Option.some.inj same
        simpa using bound

variable {operation : Operation} {violation : Violation}

theorem position_eq_error {length : Nat} {pointer : Option Int} :
    position operation length pointer = .error violation ↔
      ¬PointsInto length pointer ∧
        violation = .positionOutOfBounds operation (.ofPointer pointer) := by
  cases read : position operation length pointer with
  | ok offset =>
    have inside : PointsInto length pointer := ⟨offset, position_eq_ok.mp read⟩
    simp [inside]
  | error cause =>
    have outside : ¬PointsInto length pointer := by
      rintro ⟨offset, inside⟩
      rw [position_eq_ok.mpr inside] at read
      contradiction
    have blamed : cause = .positionOutOfBounds operation (.ofPointer pointer) := by
      unfold position at read
      split at read
      · split at read
        · contradiction
        · exact (Except.error.inj read).symm
      · exact (Except.error.inj read).symm
    rw [blamed, Except.error.injEq, eq_comm]
    exact (and_iff_right outside).symm

theorem count_eq_error {count : Int} :
    Argument.count operation count = .error violation ↔
      count < 0 ∧ violation = .negativeCount operation count := by
  cases count with
  | ofNat number =>
    have natural : ¬Int.ofNat number < 0 := Int.not_lt.mpr (Int.natCast_nonneg number)
    simp only [Argument.count, natural, false_and, reduceCtorEq]
  | negSucc number => simp [Argument.count, Int.negSucc_lt_zero, eq_comm]

end Argument

namespace Signal

open Argument

def pointers : Signal → List (Option Int)
  | .pushInputRange start stop => [start, stop]
  | .matchAt position | .traceFailure position .. => [position]
  | _ => []

def text? : Signal → Option (Option Bytes)
  | .pushString bytes | .makeLabel bytes | .makeObject bytes | .traceEnter bytes
  | .traceLeave bytes _ | .traceFailure _ bytes _ => some bytes
  | _ => none

def count? : Signal → Option Int
  | .mergeLabels number | .localsPush number | .localsLoad number | .localsPop number =>
    some number
  | _ => none

/-- The first argument that makes no sense over an input of the given length. -/
inductive Unreadable (length : Nat) (signal : Signal) : Violation → Prop
  | position {pointer : Option Int} :
      signal.pointers.find? (¬PointsInto length ·) = some pointer →
      Unreadable length signal (.positionOutOfBounds signal.operation (.ofPointer pointer))
  | text {bytes : Option Bytes} : (∀ pointer ∈ signal.pointers, PointsInto length pointer) →
      signal.text? = some bytes → (∀ content, ¬Spells bytes content) →
      Unreadable length signal (.invalidText signal.operation)
  | count {number : Int} : signal.count? = some number → number < 0 →
      Unreadable length signal (.negativeCount signal.operation number)

theorem find?_outside {length : Nat} {first pointer : Option Int} {rest : List (Option Int)} :
    (first :: rest).find? (¬PointsInto length ·) = some pointer ↔
      ¬PointsInto length first ∧ first = pointer ∨
        PointsInto length first ∧ rest.find? (¬PointsInto length ·) = some pointer := by
  by_cases inside : PointsInto length first <;> simp [inside]

theorem unreadable_of_decode {length : Nat} {signal : Signal} {violation : Violation}
    (refused : signal.decode length = .error violation) : signal.Unreadable length violation := by
  cases signal with
  | pushInputRange start stop =>
    rcases bind_eq_error.mp refused with first | ⟨_, read, later⟩
    · obtain ⟨outside, rfl⟩ := position_eq_error.mp first
      exact .position (find?_outside.mpr (.inl ⟨outside, rfl⟩))
    have inside : PointsInto length start := ⟨_, position_eq_ok.mp read⟩
    rcases bind_eq_error.mp later with second | ⟨_, _, done⟩
    · obtain ⟨outside, rfl⟩ := position_eq_error.mp second
      refine .position (find?_outside.mpr (.inr ⟨inside, ?_⟩))
      exact find?_outside.mpr (.inl ⟨outside, rfl⟩)
    · contradiction
  | traceFailure position reason isExpectation =>
    rcases bind_eq_error.mp refused with first | ⟨_, read, later⟩
    · obtain ⟨outside, rfl⟩ := position_eq_error.mp first
      exact .position (find?_outside.mpr (.inl ⟨outside, rfl⟩))
    have inside : PointsInto length position := ⟨_, position_eq_ok.mp read⟩
    rcases bind_eq_error.mp later with second | ⟨_, _, done⟩
    · obtain ⟨illegible, rfl⟩ := text_eq_error.mp second
      exact .text (by simpa [pointers] using inside) rfl illegible
    · contradiction
  | matchAt position =>
    obtain ⟨outside, rfl⟩ := position_eq_error.mp (map_eq_error.mp refused)
    exact .position (find?_outside.mpr (.inl ⟨outside, rfl⟩))
  | mergeLabels | localsPush | localsLoad | localsPop =>
    obtain ⟨negative, rfl⟩ := count_eq_error.mp (map_eq_error.mp refused)
    exact .count rfl negative
  | pushString | makeLabel | makeObject | traceEnter | traceLeave =>
    obtain ⟨illegible, rfl⟩ := text_eq_error.mp (map_eq_error.mp refused)
    exact .text nofun rfl illegible
  | _ => contradiction

theorem Unreadable.decode_eq {length : Nat} {signal : Signal} {violation : Violation}
    (unreadable : signal.Unreadable length violation) :
    signal.decode length = .error violation := by
  cases unreadable with
  | position found =>
    cases signal with
    | pushInputRange start stop =>
      rcases find?_outside.mp found with ⟨outside, rfl⟩ | ⟨⟨offset, inside⟩, later⟩
      · exact bind_eq_error.mpr (.inl (position_eq_error.mpr ⟨outside, rfl⟩))
      refine bind_eq_error.mpr (.inr ⟨offset, position_eq_ok.mpr inside, ?_⟩)
      rcases find?_outside.mp later with ⟨outside, rfl⟩ | ⟨_, none⟩
      · exact bind_eq_error.mpr (.inl (position_eq_error.mpr ⟨outside, rfl⟩))
      · contradiction
    | traceFailure position reason isExpectation =>
      rcases find?_outside.mp found with ⟨outside, rfl⟩ | ⟨_, none⟩
      · exact bind_eq_error.mpr (.inl (position_eq_error.mpr ⟨outside, rfl⟩))
      · contradiction
    | matchAt position =>
      rcases find?_outside.mp found with ⟨outside, rfl⟩ | ⟨_, none⟩
      · exact map_eq_error.mpr (position_eq_error.mpr ⟨outside, rfl⟩)
      · contradiction
    | _ => contradiction
  | text inside carried illegible =>
    cases signal with
    | traceFailure position reason isExpectation =>
      obtain rfl := Option.some.inj carried
      obtain ⟨offset, read⟩ := inside position List.mem_cons_self
      refine bind_eq_error.mpr (.inr ⟨offset, position_eq_ok.mpr read, ?_⟩)
      exact bind_eq_error.mpr (.inl (text_eq_error.mpr ⟨illegible, rfl⟩))
    | pushString | makeLabel | makeObject | traceEnter | traceLeave =>
      obtain rfl := Option.some.inj carried
      exact map_eq_error.mpr (text_eq_error.mpr ⟨illegible, rfl⟩)
    | _ => contradiction
  | count carried negative =>
    cases signal with
    | mergeLabels | localsPush | localsLoad | localsPop =>
      obtain rfl := Option.some.inj carried
      exact map_eq_error.mpr (count_eq_error.mpr ⟨negative, rfl⟩)
    | _ => contradiction

end Signal

namespace Session

variable {setup : Setup} {session : Session} {signal : Signal} {violation : Violation}

/-- On what grounds an open session refuses a signal. The names that trace hooks carry are looked at
only while tracing. -/
inductive Grounds (setup : Setup) (session : Session) (signal : Signal) : Violation → Prop
  | unreadable {violation : Violation} :
      (signal.isTraceHook = true → setup.tracing = true) →
      signal.Unreadable session.input.length violation → Grounds setup session signal violation
  | denied {call : Call} {violation : Violation} {lost : Nat} :
      signal.Decodes session.input.length call →
      session.Denies setup.factory call violation lost → Grounds setup session signal violation

/-- Hooks are never denied. -/
theorem not_denies_hook {length : Nat} {call : Call} {factory : Factory} {lost : Nat}
    (decodes : signal.Decodes length call) (hook : signal.isTraceHook = true) :
    ¬session.Denies factory call violation lost := by
  intro denied
  have refused := denied.apply_eq
  cases decodes <;> simp [Signal.isTraceHook, apply] at hook refused

theorem ignores_of_open (opened : session.violation = none) :
    session.ignores setup signal = (signal.isTraceHook && !setup.tracing) := by
  simp [ignores, closed, opened]

theorem grounds_of_refusal (opened : session.violation = none)
    (refused : session.refusal? setup signal = some violation) :
    session.Grounds setup signal violation := by
  unfold refusal? at refused
  split at refused
  · contradiction
  rename_i attended
  rw [ignores_of_open opened] at attended
  cases decoded : signal.decode session.input.length with
  | error cause =>
    rw [decoded, Option.some.injEq] at refused
    subst refused
    refine .unreadable (fun hook => ?_) (Signal.unreadable_of_decode decoded)
    simpa [hook] using attended
  | ok call =>
    rw [decoded] at refused
    obtain ⟨lost, denied⟩ := exists_denies refused
    exact .denied (Signal.decode_eq_ok.mp decoded) denied

theorem Grounds.refusal?_eq (opened : session.violation = none)
    (grounds : session.Grounds setup signal violation) :
    session.refusal? setup signal = some violation := by
  cases grounds with
  | unreadable observed unreadable =>
    have attended : session.ignores setup signal = false := by
      rw [ignores_of_open opened]
      cases hook : signal.isTraceHook with
      | false => rfl
      | true => simp [observed hook]
    simp [refusal?, attended, unreadable.decode_eq]
  | denied decodes denied =>
    have attended : session.ignores setup signal = false := by
      rw [ignores_of_open opened]
      cases hook : signal.isTraceHook with
      | false => rfl
      | true => exact absurd denied (not_denies_hook decodes hook)
    simp [refusal?, attended, Signal.decode_eq_ok.mpr decodes, denied.apply_eq]

/-- Whatever is at fault, the violation blames the callback that was issued. -/
theorem Grounds.blames (grounds : session.Grounds setup signal violation) :
    violation.operation = some signal.operation := by
  cases grounds with
  | unreadable _ unreadable => cases unreadable <;> rfl
  | denied decodes denied => rw [denied.blames, decodes.operation]

theorem refusal?_blames (refused : session.refusal? setup signal = some violation) :
    violation.operation = some signal.operation :=
  (grounds_of_refusal (open_of_refused refused) refused).blames

theorem Grounds.inverted {operation : Operation} {start stop : Nat}
    (grounds : session.Grounds setup signal (.invertedRange operation start stop)) :
    stop < start ∧ start ≤ session.input.length := by
  cases grounds with
  | unreadable _ unreadable => cases unreadable
  | denied decodes denied =>
    cases denied with
    | inverted apart =>
      cases decodes with
      | pushInputRange first second => exact ⟨by omega, first⟩

/-- An open session refuses a signal exactly on the grounds listed, and records the violation they
name. The violation blames the callback that was issued, and the offsets of an inverted range are
offsets of the input. -/
theorem refused_iff_grounds (setup : Setup) (session : Session) (opened : session.violation = none)
    (signal : Signal) (violation : Violation) :
    ((session.respond setup signal).session.violation = some violation ↔
      session.Grounds setup signal violation) ∧
    (session.Grounds setup signal violation → violation.operation = some signal.operation ∧
      ∀ operation start stop, violation = .invertedRange operation start stop →
        stop < start ∧ start ≤ session.input.length) := by
  rw [respond_violation, opened, Option.none_or]
  refine ⟨⟨grounds_of_refusal opened, Grounds.refusal?_eq opened⟩, fun grounds => ?_⟩
  refine ⟨grounds.blames, ?_⟩
  rintro operation start stop rfl
  exact grounds.inverted

theorem refused_merge_grounds :
    let session : Session := { input := [], output := [.empty, .boolean true, .text "kept"] }
    let setup : Setup := ⟨.identity, false⟩
    let misfit : Violation := .wrongKind .mergeLabels "mapping" .boolean
    session.violation = none ∧ session.Grounds setup (.mergeLabels 3) misfit ∧
    (session.respond setup (.mergeLabels 3)).session.violation = some misfit := by
  intro session setup misfit
  have denied : session.Denies .identity (.mergeLabels 3) misfit 2 :=
    @Denies.notLabelled .identity session 3 [.empty] [.text "kept"] (.boolean true) (by decide) rfl
      (by decide) (by simp [Value.kind, Kind.labelled]) rfl
  have grounds : session.Grounds setup (.mergeLabels 3) misfit := .denied .mergeLabels denied
  obtain ⟨recorded, _⟩ := refused_iff_grounds setup session rfl (.mergeLabels 3) misfit
  exact ⟨rfl, grounds, recorded.mpr grounds⟩

end Session
end MatcherHost
