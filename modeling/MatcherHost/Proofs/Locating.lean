import Mathlib.Data.List.Induction
import Mathlib.Data.Prod.Lex
import Mathlib.Order.Interval.Set.Defs
import Mathlib.Order.Monotone.Defs
import MatcherHost.Reporting.Location

/-! Positions and where they are located. A reader starts on the first line at column zero and moves
on with every byte; a position is located where the reader stands when the input before it has been
read. No byte takes the reader back, or leaves it where it is, so locations come in the order of
the positions. -/
namespace MatcherHost.Location

def place (location : Location) : Nat × Nat := (location.line, location.column)

/-- Where one more byte takes a reader. A newline already counts on the line it opens. -/
def advance (place : Nat × Nat) (byte : UInt8) : Nat × Nat :=
  if byte = newline then (place.1 + 1, 1) else (place.1, place.2 + 1)

def read (bytes : Bytes) : Nat × Nat := bytes.foldl advance (1, 0)

theorem advance_newline (place : Nat × Nat) : advance place newline = (place.1 + 1, 1) :=
  if_pos rfl

theorem advance_other {byte : UInt8} (other : byte ≠ newline) (place : Nat × Nat) :
    advance place byte = (place.1, place.2 + 1) :=
  if_neg other

theorem read_concat (bytes : Bytes) (byte : UInt8) :
    read (bytes ++ [byte]) = advance (read bytes) byte := by
  rw [read, List.foldl_append, List.foldl_cons, List.foldl_nil, read]

/-- The reader's line tells how many newlines were read. -/
theorem read_line (bytes : Bytes) : (read bytes).1 = bytes.count newline + 1 := by
  induction bytes using List.reverseRecOn with
  | nil => rfl
  | append_singleton front byte ih =>
    rw [read_concat, List.count_append]
    by_cases ends : byte = newline
    · subst ends
      rw [advance_newline, ih, List.count_singleton_self]
    · rw [advance_other ends, ih, List.count_singleton, beq_false_of_ne ends]
      rfl

/-- The reader's column tells how far back the last newline is, or how much was read if there is
none. -/
theorem read_column (bytes : Bytes) :
    (read bytes).2 =
      if newline ∈ bytes then (bytes.reverse.takeWhile (· ≠ newline)).length + 1
      else bytes.length := by
  induction bytes using List.reverseRecOn with
  | nil => rfl
  | append_singleton front byte ih =>
    rw [read_concat, List.reverse_append, List.reverse_singleton, List.singleton_append]
    by_cases ends : byte = newline
    · subst ends
      simp [advance_newline]
    · have same : newline ∈ front ++ [byte] ↔ newline ∈ front := by simp [Ne.symm ends]
      rw [advance_other ends, ih, List.takeWhile_cons_of_pos (by simpa using ends)]
      simp only [same, List.length_cons, List.length_append]
      split <;> rfl

theorem place_locate (input : Bytes) (position : Nat) :
    (locate input position).place = read (input.take position) :=
  Prod.ext (read_line _).symm (read_column _).symm

/-- A location keeps the position it was asked for, past the end of the input or not. Its line and
column are those of a reader who starts at line one and column zero and takes the bytes before the
position one by one, as far as there are any: a newline moves on to column one of the next line,
any other byte to the next column. -/
theorem locate_follows_reader (input : Bytes) (position : Nat) :
    let location := locate input position
    location.position = position ∧
      (location.line, location.column) =
        (input.take (min position input.length)).foldl advance (1, 0) := by
  intro location
  refine ⟨rfl, ?_⟩
  rw [← List.take_eq_take_min]
  exact place_locate input position

/-- A byte takes the reader to a later line, or further on the same one. -/
theorem lt_advance (place : Nat × Nat) (byte : UInt8) :
    toLex place < toLex (advance place byte) := by
  rw [Prod.Lex.toLex_lt_toLex]
  by_cases ends : byte = newline
  · subst ends
    rw [advance_newline]
    exact .inl (Nat.lt_succ_self _)
  · rw [advance_other ends]
    exact .inr ⟨rfl, Nat.lt_succ_self _⟩

theorem le_foldl_advance (bytes : Bytes) (place : Nat × Nat) :
    toLex place ≤ toLex (bytes.foldl advance place) := by
  induction bytes generalizing place with
  | nil => exact le_rfl
  | cons byte rest ih => exact (lt_advance place byte).le.trans (ih (advance place byte))

theorem read_lt_read (front : Bytes) (byte : UInt8) (rest : Bytes) :
    toLex (read front) < toLex (read (front ++ byte :: rest)) := by
  rw [read, read, List.foldl_append, List.foldl_cons]
  exact (lt_advance _ byte).trans_le (le_foldl_advance rest _)

theorem strictMonoOn_place (input : Bytes) :
    StrictMonoOn (fun position => toLex (locate input position).place) (Set.Iic input.length) := by
  intro early _ late inside before
  obtain ⟨more, rfl⟩ := Nat.exists_eq_add_of_lt before
  -- The later position has at least one more byte before it, the one at the earlier position.
  have next : early < input.length := Nat.lt_of_lt_of_le before inside
  simp only [place_locate]
  rw [Nat.add_assoc, List.take_add, List.drop_eq_getElem_cons next, List.take_succ_cons]
  exact read_lt_read ..

/-- Of two positions of an input, the end included, the earlier one has the smaller line, or the
same line and the smaller column. So a line and a column belong to one position at most. -/
theorem locate_orders_positions (input : Bytes) :
    (∀ early late, early < late → late ≤ input.length →
      toLex (locate input early).place < toLex (locate input late).place) ∧
    ∀ first second, first ≤ input.length → second ≤ input.length →
      (locate input first).place = (locate input second).place → first = second := by
  refine ⟨fun early late before inside => ?_, fun first second here there same => ?_⟩
  · exact strictMonoOn_place input (before.le.trans inside) inside before
  · exact (strictMonoOn_place input).injOn here there (congrArg toLex same)

/-- The bytes of `a`, a newline and `b`. Before and after the newline the column is one; only the
lines tell the two positions apart. -/
theorem locate_orders_lines :
    toLex (locate [97, 10, 98] 1).place < toLex (locate [97, 10, 98] 2).place ∧
    toLex (locate [97, 10, 98] 0).place < toLex (locate [97, 10, 98] 3).place ∧
    (locate [97, 10, 98] 1).place ≠ (locate [97, 10, 98] 2).place := by
  obtain ⟨orders, identifies⟩ := locate_orders_positions [97, 10, 98]
  refine ⟨orders 1 2 (by decide) (by decide), orders 0 3 (by decide) (by decide), fun same => ?_⟩
  have collapsed : 1 = 2 := identifies 1 2 (by decide) (by decide) same
  contradiction

end MatcherHost.Location
