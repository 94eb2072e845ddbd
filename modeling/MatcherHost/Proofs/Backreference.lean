import MatcherHost.Proofs.Decoding
import MatcherHost.Proofs.Serving

/-! Matching what was captured before. A match takes the top value and answers where its bytes end
in the input, if they stand at the position asked for; the answer is again a position of the input,
so a capture can be matched piece by piece. -/
namespace MatcherHost

namespace InputRange

/-- A range cut in two covers the bytes of its parts one after the other. -/
theorem bytes_split {input : Bytes} {start middle stop : Nat} (early : start ≤ middle)
    (late : middle ≤ stop) (inside : stop ≤ input.length) :
    bytes ⟨input, start, stop, Nat.le_trans early late, inside⟩ =
      bytes ⟨input, start, middle, early, Nat.le_trans late inside⟩ ++
        bytes ⟨input, middle, stop, late, inside⟩ := by
  have lengths : stop - start = (middle - start) + (stop - middle) := by omega
  have reached : start + (middle - start) = middle := by omega
  simp only [bytes, length]
  rw [lengths, List.take_add, List.drop_drop, reached]

end InputRange

/-- Where the bytes end if they stand in the input at a position. -/
def matchEnd (input : Bytes) (position : Nat) (bytes : Bytes) : Option Nat :=
  if bytes.isPrefixOf (input.drop position) then some (position + bytes.length) else none

section MatchEnd

variable {input bytes : Bytes} {position reached : Nat}

theorem matchEnd_eq_some (inside : position ≤ input.length) :
    matchEnd input position bytes = some reached ↔
      position ≤ reached ∧ reached ≤ input.length ∧
        (input.drop position).take (reached - position) = bytes := by
  unfold matchEnd
  split
  · rename_i stands
    rw [List.isPrefixOf_iff_prefix] at stands
    have fits := stands.length_le
    rw [List.length_drop] at fits
    have covered := List.prefix_iff_eq_take.mp stands
    rw [Option.some.injEq]
    constructor
    · rintro rfl
      rw [Nat.add_sub_cancel_left]
      exact ⟨Nat.le_add_right .., by omega, covered.symm⟩
    · rintro ⟨forward, bound, same⟩
      have length := congrArg List.length same
      rw [List.length_take, List.length_drop] at length
      omega
  · rename_i differs
    simp only [reduceCtorEq, false_iff, not_and]
    rintro _ _ rfl
    exact differs (List.isPrefixOf_iff_prefix.mpr (List.take_prefix ..))

/-- Bytes in two parts stand somewhere if the second part stands where the first ends. -/
theorem matchEnd_append (input : Bytes) (position : Nat) (first second : Bytes) :
    matchEnd input position (first ++ second) =
      (matchEnd input position first).bind fun reached => matchEnd input reached second := by
  by_cases stands : first <+: input.drop position
  · have rest : input.drop position = first ++ input.drop (position + first.length) := by
      rw [← List.drop_drop]
      exact (List.prefix_iff_eq_append.mp stands).symm
    have parts : first ++ second <+: input.drop position ↔
        second <+: input.drop (position + first.length) := by
      rw [rest, List.prefix_append_right_inj]
    simp only [matchEnd, List.isPrefixOf_iff_prefix, stands, parts, if_true, Option.bind_some,
      List.length_append, Nat.add_assoc]
  · have whole : ¬first ++ second <+: input.drop position := fun longer =>
      stands ((List.prefix_append first second).trans longer)
    simp only [matchEnd, List.isPrefixOf_iff_prefix, stands, whole, if_false, Option.bind_none]

end MatchEnd

namespace Session

variable {setup : Setup} {session : Session} {position : Nat}

theorem respond_matchAt {value : Value} {below : Stack} {bytes : Bytes}
    (opened : session.violation = none) (stacked : session.output = value :: below)
    (read : value.bytes? = some bytes) (inside : position ≤ session.input.length) :
    session.respond setup (.matchAt (some position)) =
      ⟨{ session with output := below }, matchEnd session.input position bytes,
        noted setup.tracing (.matchAt position)⟩ := by
  have compared : session.apply setup.factory (.matchAt position) =
      ⟨{ session with output := below }, matchEnd session.input position bytes, none⟩ := by
    simp only [apply, matchAt, stacked, Stack.take, read, matchEnd]
    split <;> rfl
  have decoded := Signal.decode_eq_ok.mpr (.matchAt inside)
  rw [respond_of_heard opened rfl decoded (by rw [compared]), compared]

def matchPiece (setup : Setup) (session : Session) (start stop position : Nat) : Response :=
  let captured := (session.respond setup (.pushInputRange (some start) (some stop))).session
  captured.respond setup (.matchAt (some position))

theorem matchPiece_eq {start stop : Nat} (opened : session.violation = none)
    (ordered : start ≤ stop) (bounded : stop ≤ session.input.length)
    (inside : position ≤ session.input.length) :
    session.matchPiece setup start stop position =
      ⟨session, matchEnd session.input position
          (InputRange.bytes ⟨session.input, start, stop, ordered, bounded⟩),
        noted setup.tracing (.matchAt position)⟩ := by
  have captured : session.apply setup.factory (.pushInputRange start stop) =
      ⟨{ session with
          output := .range ⟨session.input, start, stop, ordered, bounded⟩ :: session.output },
        none, none⟩ := by
    simp [apply, onOutput, Stack.pushRange, InputRange.of?, ordered, bounded]
  have decoded := Signal.decode_eq_ok.mpr
    (.pushInputRange (Nat.le_trans ordered bounded) bounded)
  rw [matchPiece, respond_of_heard opened rfl decoded (by rw [captured]), captured]
  exact respond_matchAt opened rfl rfl inside

/-- Matching the top value of an open session takes exactly that value and closes nothing. The
answer is where its bytes end if the input goes on with them at the position, and null otherwise;
what is answered is a position of the input, and the bytes stand before it. Matching a capture is
matching its parts in order, each where the one before it ended. -/
theorem match_answers_capture (setup : Setup) (session : Session)
    (opened : session.violation = none) :
    (∀ value below bytes position, session.output = value :: below →
      value.bytes? = some bytes → position ≤ session.input.length →
      let response := session.respond setup (.matchAt (some position))
      response.session = { session with output := below } ∧
      response.session.violation = none ∧
      (response.answer = if bytes <+: session.input.drop position then
        some (position + bytes.length) else none) ∧
      ∀ reached, response.answer = some reached →
        position ≤ reached ∧ reached ≤ session.input.length ∧
        (session.input.drop position).take (reached - position) = bytes) ∧
    ∀ start middle stop position, start ≤ middle → middle ≤ stop →
      stop ≤ session.input.length → position ≤ session.input.length →
      let first := session.matchPiece setup start middle position
      (session.matchPiece setup start stop position).answer =
        first.answer.bind fun reached =>
          (first.session.matchPiece setup middle stop reached).answer := by
  constructor
  · intro value below bytes position stacked read inside response
    have answered : response = ⟨{ session with output := below },
        matchEnd session.input position bytes, noted setup.tracing (.matchAt position)⟩ :=
      respond_matchAt opened stacked read inside
    rw [answered]
    refine ⟨rfl, opened, ?_, fun reached => (matchEnd_eq_some inside).mp⟩
    simp only [matchEnd, List.isPrefixOf_iff_prefix]
  · intro start middle stop position early late bounded inside first
    have captured : first = ⟨session, _, _⟩ :=
      matchPiece_eq opened early (Nat.le_trans late bounded) inside
    rw [matchPiece_eq opened (Nat.le_trans early late) bounded inside, captured,
      InputRange.bytes_split early late bounded, matchEnd_append]
    refine Option.bind_congr fun reached answered => ?_
    -- The first part answers a position of the input, so the second match can be served there.
    have within := ((matchEnd_eq_some inside).mp answered).2.1
    rw [matchPiece_eq opened late bounded within]

theorem match_answers_repetition :
    let setup : Setup := ⟨.identity, false⟩
    let session : Session := { input := [97, 98, 97, 98, 99], output := [.text "ab", .empty] }
    session.violation = none ∧
    (session.respond setup (.matchAt (some 2))).session = { session with output := [.empty] } ∧
    (session.respond setup (.matchAt (some 2))).answer = some 4 ∧
    (session.matchPiece setup 0 2 2).answer =
      (session.matchPiece setup 0 1 2).answer.bind fun reached =>
        ((session.matchPiece setup 0 1 2).session.matchPiece setup 1 2 reached).answer := by
  intro setup session
  obtain ⟨matching, parts⟩ := match_answers_capture setup session rfl
  obtain ⟨taken, _, answered, _⟩ :=
    matching (.text "ab") [.empty] [97, 98] 2 rfl (by decide +kernel) (by decide)
  refine ⟨rfl, taken, answered.trans (if_pos ⟨[99], rfl⟩), ?_⟩
  exact parts 0 1 2 2 (by decide) (by decide) (by decide) (by decide)

end Session
end MatcherHost
