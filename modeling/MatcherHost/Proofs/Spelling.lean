import Mathlib.Data.List.TakeWhile
import MatcherHost.Contract.Signal

/-! The bytes that spell a text are read back as that text, and no others are read. So any text
without a zero byte can be an argument, and an argument is a text or spells none. -/
namespace MatcherHost

namespace Utf8

theorem step_owed {more bits low high byte : Nat} (above : low ≤ byte) (below : byte ≤ high) :
    step (.inside (more + 1) bits low high) byte =
      ([], .inside more (bits * 64 + (byte - 0x80)) 0x80 0xBF) := by
  simp [step, above, below]

theorem step_last {bits low high byte : Nat} (above : low ≤ byte) (below : byte ≤ high) :
    step (.inside 0 bits low high) byte =
      ([some (Char.ofNat (bits * 64 + (byte - 0x80)))], .start) := by
  simp [step, above, below]

theorem opening_two {lead : Nat} (above : 2 ≤ lead) (below : lead < 0x20) :
    opening (lead + 0xC0) = ([], .inside 0 lead 0x80 0xBF) := by
  have one : ¬lead + 0xC0 < 0x80 := by omega
  have gap : ¬lead + 0xC0 < 0xC2 := by omega
  have two : lead + 0xC0 < 0xE0 := by omega
  simp [opening, one, gap, two]

theorem opening_three {lead : Nat} (below : lead < 0x10) :
    opening (lead + 0xE0) =
      ([], .inside 1 lead (if lead = 0 then 0xA0 else 0x80) (if lead = 0xD then 0x9F else 0xBF)) := by
  have one : ¬lead + 0xE0 < 0x80 := by omega
  have gap : ¬lead + 0xE0 < 0xC2 := by omega
  have two : ¬lead + 0xE0 < 0xE0 := by omega
  have three : lead + 0xE0 < 0xF0 := by omega
  simp [opening, one, gap, two, three]

theorem opening_four {lead : Nat} (below : lead < 5) :
    opening (lead + 0xF0) =
      ([], .inside 2 lead (if lead = 0 then 0x90 else 0x80) (if lead = 4 then 0x8F else 0xBF)) := by
  have one : ¬lead + 0xF0 < 0x80 := by omega
  have gap : ¬lead + 0xF0 < 0xC2 := by omega
  have two : ¬lead + 0xF0 < 0xE0 := by omega
  have three : ¬lead + 0xF0 < 0xF0 := by omega
  have four : lead + 0xF0 < 0xF5 := by omega
  simp [opening, one, gap, two, three, four]

theorem scanFrom_cons (state : State) (byte : Nat) (small : byte < 256) (rest : Bytes) :
    scanFrom state (UInt8.ofNat byte :: rest) =
      (step state byte).1 ++ scanFrom (step state byte).2 rest := by
  have same : (UInt8.ofNat byte).toNat = byte := UInt8.toNat_ofNat_of_lt' small
  simp only [scanFrom, same]

/-! One character of each length, by its code point. -/

theorem scanFrom_two {point : Nat} (above : 0x80 ≤ point) (below : point ≤ 0x7FF) (rest : Bytes) :
    scanFrom .start (UInt8.ofNat (point / 64 % 0x20 + 0xC0) ::
        UInt8.ofNat (point % 0x40 + 0x80) :: rest) =
      some (Char.ofNat point) :: scanFrom .start rest := by
  have lead : point / 64 % 0x20 = point / 64 := Nat.mod_eq_of_lt (by omega)
  have first : step .start (point / 64 + 0xC0) = ([], .inside 0 (point / 64) 0x80 0xBF) :=
    opening_two (by omega) (by omega)
  have second := @step_last (point / 64) 0x80 0xBF (point % 0x40 + 0x80) (by omega) (by omega)
  have whole : point / 64 * 64 + (point % 0x40 + 0x80 - 0x80) = point := by omega
  rw [lead, scanFrom_cons _ _ (by omega), first, scanFrom_cons _ _ (by omega), second, whole]
  rfl

/-- The interval of the second byte leaves out what two bytes spell, and surrogates. -/
theorem scanFrom_three {point : Nat} (above : 0x800 ≤ point) (below : point ≤ 0xFFFF)
    (valid : point < 0xD800 ∨ 0xDFFF < point) (rest : Bytes) :
    scanFrom .start (UInt8.ofNat (point / 4096 % 0x10 + 0xE0) ::
        UInt8.ofNat (point / 64 % 0x40 + 0x80) :: UInt8.ofNat (point % 0x40 + 0x80) :: rest) =
      some (Char.ofNat point) :: scanFrom .start rest := by
  have lead : point / 4096 % 0x10 = point / 4096 := Nat.mod_eq_of_lt (by omega)
  have first := @opening_three (point / 4096) (by omega)
  have second := @step_owed 0 (point / 4096) (if point / 4096 = 0 then 0xA0 else 0x80)
    (if point / 4096 = 0xD then 0x9F else 0xBF) (point / 64 % 0x40 + 0x80)
    (by split <;> omega) (by split <;> omega)
  have third := @step_last (point / 4096 * 64 + (point / 64 % 0x40 + 0x80 - 0x80)) 0x80 0xBF
    (point % 0x40 + 0x80) (by omega) (by omega)
  have whole : (point / 4096 * 64 + (point / 64 % 0x40 + 0x80 - 0x80)) * 64 +
      (point % 0x40 + 0x80 - 0x80) = point := by omega
  rw [lead, scanFrom_cons _ _ (by omega), step, first, scanFrom_cons _ _ (by omega), second,
    scanFrom_cons _ _ (by omega), third, whole]
  rfl

/-- The interval of the second byte leaves out what three bytes spell, and what is no code
point. -/
theorem scanFrom_four {point : Nat} (above : 0x10000 ≤ point) (below : point < 0x110000)
    (rest : Bytes) :
    scanFrom .start (UInt8.ofNat (point / 262144 % 0x08 + 0xF0) ::
        UInt8.ofNat (point / 4096 % 0x40 + 0x80) :: UInt8.ofNat (point / 64 % 0x40 + 0x80) ::
        UInt8.ofNat (point % 0x40 + 0x80) :: rest) =
      some (Char.ofNat point) :: scanFrom .start rest := by
  have lead : point / 262144 % 0x08 = point / 262144 := Nat.mod_eq_of_lt (by omega)
  have first := @opening_four (point / 262144) (by omega)
  have second := @step_owed 1 (point / 262144) (if point / 262144 = 0 then 0x90 else 0x80)
    (if point / 262144 = 4 then 0x8F else 0xBF) (point / 4096 % 0x40 + 0x80)
    (by split <;> omega) (by split <;> omega)
  have third := @step_owed 0 (point / 262144 * 64 + (point / 4096 % 0x40 + 0x80 - 0x80)) 0x80 0xBF
    (point / 64 % 0x40 + 0x80) (by omega) (by omega)
  have fourth := @step_last ((point / 262144 * 64 + (point / 4096 % 0x40 + 0x80 - 0x80)) * 64 +
    (point / 64 % 0x40 + 0x80 - 0x80)) 0x80 0xBF (point % 0x40 + 0x80) (by omega) (by omega)
  have whole : ((point / 262144 * 64 + (point / 4096 % 0x40 + 0x80 - 0x80)) * 64 +
      (point / 64 % 0x40 + 0x80 - 0x80)) * 64 + (point % 0x40 + 0x80 - 0x80) = point := by omega
  rw [lead, scanFrom_cons _ _ (by omega), step, first, scanFrom_cons _ _ (by omega), second,
    scanFrom_cons _ _ (by omega), third, scanFrom_cons _ _ (by omega), fourth, whole]
  rfl

/-- The bytes of one character, whatever follows them, are read as that character. -/
theorem scanFrom_utf8EncodeChar (char : Char) (rest : Bytes) :
    scanFrom .start (String.utf8EncodeChar char ++ rest) =
      some char :: scanFrom .start rest := by
  have same : Char.ofNat char.val.toNat = char := Char.ofNat_toNat char
  have valid : char.val.toNat < 0xD800 ∨ 0xDFFF < char.val.toNat ∧ char.val.toNat < 0x110000 :=
    char.valid
  unfold String.utf8EncodeChar
  generalize char.val.toNat = point at same valid
  subst same
  by_cases one : point ≤ 0x7F
  · have lone : opening point = ([some (Char.ofNat point)], .start) := by
      simp [opening, Nat.lt_succ_of_le one]
    simp only [one, if_true, List.cons_append, List.nil_append]
    rw [scanFrom_cons _ _ (by omega), step, lone]
    rfl
  by_cases two : point ≤ 0x7FF
  · simp only [one, two, if_true, if_false, List.cons_append, List.nil_append]
    exact scanFrom_two (by omega) two rest
  by_cases three : point ≤ 0xFFFF
  · simp only [one, two, three, if_true, if_false, List.cons_append, List.nil_append]
    exact scanFrom_three (by omega) three (by omega) rest
  · simp only [one, two, three, if_false, List.cons_append, List.nil_append]
    exact scanFrom_four (by omega) (by omega) rest

theorem scan_encode (text : String) : scan (encode text) = text.toList.map some := by
  unfold scan encode
  induction text.toList with
  | nil => rfl
  | cons char rest ih => rw [List.flatMap_cons, scanFrom_utf8EncodeChar, ih, List.map_cons]

/-- Strict reading undoes spelling. -/
theorem decode?_encode (text : String) : decode? (encode text) = some text := by
  have read : (text.toList.map some).mapM id = some text.toList := by
    induction text.toList with
    | nil => rfl
    | cons char rest ih => simp [List.mapM_cons, ih]
  rw [decode?, scan_encode, read, Option.map_some, String.ofList_toList]

theorem ofNat_ne_zero {byte : Nat} (positive : 0 < byte) (small : byte < 256) :
    (0 : UInt8) ≠ UInt8.ofNat byte := by
  intro same
  have numbers := congrArg UInt8.toNat same
  rw [UInt8.toNat_ofNat_of_lt' small] at numbers
  exact absurd numbers (Nat.ne_of_lt positive)

/-- Only the zero character is spelled with a zero byte: the bytes of longer ones all have their
highest bit set. -/
theorem zero_notMem_utf8EncodeChar {char : Char} (nonzero : char ≠ Char.ofNat 0) :
    (0 : UInt8) ∉ String.utf8EncodeChar char := by
  have positive : char.val.toNat ≠ 0 := by
    intro zero
    exact nonzero (by rw [← zero]; exact (Char.ofNat_toNat char).symm)
  unfold String.utf8EncodeChar
  generalize char.val.toNat = point at positive
  simp only
  split
  · simp only [List.mem_singleton]
    exact ofNat_ne_zero (by omega) (by omega)
  split
  · simp only [List.mem_cons, List.not_mem_nil, or_false, not_or]
    exact ⟨ofNat_ne_zero (by omega) (by omega), ofNat_ne_zero (by omega) (by omega)⟩
  split
  · simp only [List.mem_cons, List.not_mem_nil, or_false, not_or]
    exact ⟨ofNat_ne_zero (by omega) (by omega), ofNat_ne_zero (by omega) (by omega),
      ofNat_ne_zero (by omega) (by omega)⟩
  · simp only [List.mem_cons, List.not_mem_nil, or_false, not_or]
    exact ⟨ofNat_ne_zero (by omega) (by omega), ofNat_ne_zero (by omega) (by omega),
      ofNat_ne_zero (by omega) (by omega), ofNat_ne_zero (by omega) (by omega)⟩

/-! The other way round: bytes without a gap are spelled by characters. -/

theorem gapless_inside {more bits low high : Nat} {bytes : Bytes}
    (gapless : none ∉ scanFrom (.inside more bits low high) bytes) :
    ∃ byte rest, bytes = byte :: rest ∧ low ≤ byte.toNat ∧ byte.toNat ≤ high ∧
      none ∉ scanFrom (step (.inside more bits low high) byte.toNat).2 rest := by
  cases bytes with
  | nil => simp [scanFrom, finish] at gapless
  | cons byte rest =>
    by_cases within : low ≤ byte.toNat ∧ byte.toNat ≤ high
    · refine ⟨byte, rest, rfl, within.1, within.2, fun gap => gapless ?_⟩
      exact List.mem_append_right _ gap
    · simp [scanFrom, step, within] at gapless

theorem val_ofNat {point : Nat} (valid : point.isValidChar) :
    (Char.ofNat point).val.toNat = point := by
  rw [Char.ofNat, dif_pos valid]
  rfl

theorem spelled_two {lead second : UInt8} (above : 0xC2 ≤ lead.toNat) (below : lead.toNat < 0xE0)
    (low : 0x80 ≤ second.toNat) (high : second.toNat ≤ 0xBF) :
    ∃ char, String.utf8EncodeChar char = [lead, second] := by
  obtain ⟨a, first⟩ := Nat.exists_eq_add_of_le above
  obtain ⟨b, next⟩ := Nat.exists_eq_add_of_le low
  obtain ⟨point, spelled⟩ : ∃ point, point = (a + 2) * 64 + b := ⟨_, rfl⟩
  have leads : point / 64 % 0x20 + 0xC0 = lead.toNat := by omega
  have seconds : point % 0x40 + 0x80 = second.toNat := by omega
  have notOne : ¬point ≤ 0x7F := by omega
  have two : point ≤ 0x7FF := by omega
  refine ⟨Char.ofNat point, ?_⟩
  simp only [String.utf8EncodeChar, val_ofNat (.inl (by omega) : point.isValidChar), notOne, two,
    if_false, if_true, leads, seconds, UInt8.ofNat_toNat]

theorem spelled_three {lead second third : UInt8} (above : 0xE0 ≤ lead.toNat)
    (below : lead.toNat < 0xF0)
    (low : (if lead.toNat = 0xE0 then 0xA0 else 0x80) ≤ second.toNat)
    (high : second.toNat ≤ (if lead.toNat = 0xED then 0x9F else 0xBF))
    (lowToo : 0x80 ≤ third.toNat) (highToo : third.toNat ≤ 0xBF) :
    ∃ char, String.utf8EncodeChar char = [lead, second, third] := by
  have continued : 0x80 ≤ second.toNat := le_trans (by split <;> decide) low
  have bounded : second.toNat ≤ 0xBF := le_trans high (by split <;> decide)
  obtain ⟨a, first⟩ := Nat.exists_eq_add_of_le above
  obtain ⟨b, next⟩ := Nat.exists_eq_add_of_le continued
  obtain ⟨c, last⟩ := Nat.exists_eq_add_of_le lowToo
  obtain ⟨point, spelled⟩ : ∃ point, point = (a * 64 + b) * 64 + c := ⟨_, rfl⟩
  have notTwo : ¬point ≤ 0x7FF := by split at low <;> omega
  have valid : point.isValidChar := by
    unfold Nat.isValidChar
    split at high <;> omega
  clear low high
  have leads : point / 4096 % 0x10 + 0xE0 = lead.toNat := by omega
  have seconds : point / 64 % 0x40 + 0x80 = second.toNat := by omega
  have thirds : point % 0x40 + 0x80 = third.toNat := by omega
  have notOne : ¬point ≤ 0x7F := by omega
  have three : point ≤ 0xFFFF := by omega
  refine ⟨Char.ofNat point, ?_⟩
  simp only [String.utf8EncodeChar, val_ofNat valid, notOne, notTwo, three, if_false, if_true,
    leads, seconds, thirds, UInt8.ofNat_toNat]

theorem spelled_four {lead second third fourth : UInt8} (above : 0xF0 ≤ lead.toNat)
    (below : lead.toNat < 0xF5)
    (low : (if lead.toNat = 0xF0 then 0x90 else 0x80) ≤ second.toNat)
    (high : second.toNat ≤ (if lead.toNat = 0xF4 then 0x8F else 0xBF))
    (lowThird : 0x80 ≤ third.toNat) (highThird : third.toNat ≤ 0xBF)
    (lowFourth : 0x80 ≤ fourth.toNat) (highFourth : fourth.toNat ≤ 0xBF) :
    ∃ char, String.utf8EncodeChar char = [lead, second, third, fourth] := by
  have continued : 0x80 ≤ second.toNat := le_trans (by split <;> decide) low
  have bounded : second.toNat ≤ 0xBF := le_trans high (by split <;> decide)
  obtain ⟨a, first⟩ := Nat.exists_eq_add_of_le above
  obtain ⟨b, next⟩ := Nat.exists_eq_add_of_le continued
  obtain ⟨c, later⟩ := Nat.exists_eq_add_of_le lowThird
  obtain ⟨d, last⟩ := Nat.exists_eq_add_of_le lowFourth
  obtain ⟨point, spelled⟩ : ∃ point, point = ((a * 64 + b) * 64 + c) * 64 + d := ⟨_, rfl⟩
  have notThree : ¬point ≤ 0xFFFF := by split at low <;> omega
  have valid : point.isValidChar := by
    unfold Nat.isValidChar
    split at high <;> omega
  clear low high
  have leads : point / 262144 % 0x08 + 0xF0 = lead.toNat := by omega
  have seconds : point / 4096 % 0x40 + 0x80 = second.toNat := by omega
  have thirds : point / 64 % 0x40 + 0x80 = third.toNat := by omega
  have fourths : point % 0x40 + 0x80 = fourth.toNat := by omega
  have notTwo : ¬point ≤ 0x7FF := by omega
  have notOne : ¬point ≤ 0x7F := by omega
  refine ⟨Char.ofNat point, ?_⟩
  simp only [String.utf8EncodeChar, val_ofNat valid, notOne, notTwo, notThree, if_false,
    leads, seconds, thirds, fourths, UInt8.ofNat_toNat]

/-- Without a gap, the first byte begins a character that the bytes after it complete. -/
theorem gapless_start {byte : UInt8} {bytes : Bytes}
    (gapless : none ∉ scanFrom .start (byte :: bytes)) :
    ∃ char rest, byte :: bytes = String.utf8EncodeChar char ++ rest := by
  have opened : none ∉ (opening byte.toNat).1 ++ scanFrom (opening byte.toNat).2 bytes := gapless
  unfold opening at opened
  split at opened
  · rename_i one
    have short : byte.toNat ≤ 0x7F := by omega
    refine ⟨Char.ofNat byte.toNat, bytes, ?_⟩
    simp only [String.utf8EncodeChar, val_ofNat (.inl (by omega) : byte.toNat.isValidChar), short,
      if_true, UInt8.ofNat_toNat]
    rfl
  split at opened
  · exact absurd List.mem_cons_self opened
  split at opened
  · rename_i above below
    obtain ⟨second, rest, rfl, low, high, _⟩ := gapless_inside opened
    obtain ⟨char, spelled⟩ := @spelled_two byte second (by omega) below low high
    exact ⟨char, rest, by rw [spelled]; rfl⟩
  split at opened
  · rename_i above below
    obtain ⟨second, rest, rfl, low, high, later⟩ := gapless_inside opened
    rw [step_owed low high] at later
    obtain ⟨third, rest, rfl, lowToo, highToo, _⟩ := gapless_inside later
    obtain ⟨char, spelled⟩ := spelled_three (by omega) below low high lowToo highToo
    exact ⟨char, rest, by rw [spelled]; rfl⟩
  split at opened
  · rename_i above below
    obtain ⟨second, rest, rfl, low, high, later⟩ := gapless_inside opened
    rw [step_owed low high] at later
    obtain ⟨third, rest, rfl, lowThird, highThird, last⟩ := gapless_inside later
    rw [step_owed lowThird highThird] at last
    obtain ⟨fourth, rest, rfl, lowFourth, highFourth, _⟩ := gapless_inside last
    obtain ⟨char, spelled⟩ := spelled_four (by omega) below low high lowThird highThird
      lowFourth highFourth
    exact ⟨char, rest, by rw [spelled]; rfl⟩
  · exact absurd List.mem_cons_self opened

theorem exists_spelling {bytes : Bytes} (gapless : none ∉ scan bytes) :
    ∃ text, bytes = encode text := by
  induction length : bytes.length using Nat.strongRecOn generalizing bytes with
  | ind size ih =>
    cases bytes with
    | nil => exact ⟨"", rfl⟩
    | cons byte more =>
      obtain ⟨char, rest, spelled⟩ := gapless_start gapless
      have later : none ∉ scan rest := by
        rw [scan, spelled, scanFrom_utf8EncodeChar] at gapless
        exact fun gap => gapless (List.mem_cons_of_mem _ gap)
      have shorter : rest.length < size := by
        rw [← length, spelled, List.length_append, String.length_utf8EncodeChar]
        have := char.utf8Size_pos
        omega
      obtain ⟨text, rfl⟩ := ih rest.length shorter later rfl
      refine ⟨String.ofList (char :: text.toList), ?_⟩
      rw [spelled, encode, encode, String.toList_ofList, List.flatMap_cons]

theorem gapless_of_mapM {scanned : List (Option Char)} {chars : List Char}
    (read : scanned.mapM id = some chars) : none ∉ scanned := by
  induction scanned generalizing chars with
  | nil => simp
  | cons piece rest ih =>
    cases piece with
    | none => simp [List.mapM_cons] at read
    | some char =>
      cases later : rest.mapM id with
      | none => simp [List.mapM_cons, later] at read
      | some more => simpa using ih later

/-- Strict reading accepts exactly what texts are spelled with. -/
theorem decode?_eq_some {bytes : Bytes} {text : String} :
    decode? bytes = some text ↔ bytes = encode text := by
  constructor
  · intro decoded
    obtain ⟨chars, read, _⟩ := Option.map_eq_some_iff.mp decoded
    obtain ⟨other, rfl⟩ := exists_spelling (gapless_of_mapM read)
    rw [decode?_encode] at decoded
    rw [Option.some.inj decoded]
  · rintro rfl
    exact decode?_encode text

end Utf8

/-- A text without a zero character reaches the host as it is. -/
theorem Argument.text_encode (operation : Operation) {content : String}
    (free : Char.ofNat 0 ∉ content.toList) :
    Argument.text operation (some (Utf8.encode content)) = .ok content := by
  have uncut : (Utf8.encode content).takeWhile (· ≠ 0) = Utf8.encode content := by
    rw [List.takeWhile_eq_self_iff]
    intro byte spelled
    obtain ⟨char, member, inside⟩ := List.mem_flatMap.mp spelled
    have nonzero : char ≠ Char.ofNat 0 := by
      rintro rfl
      exact free member
    simp only [ne_eq, decide_eq_true_eq]
    rintro rfl
    exact Utf8.zero_notMem_utf8EncodeChar nonzero inside
  simp only [Argument.text, Option.bind_some, uncut, Utf8.decode?_encode]

/-- The bytes up to the first zero byte spell the text. -/
def Argument.Spells (bytes : Option Bytes) (content : String) : Prop :=
  ∃ given, bytes = some given ∧ given.takeWhile (· ≠ 0) = Utf8.encode content

theorem Argument.text_eq_ok {operation : Operation} {bytes : Option Bytes} {content : String} :
    text operation bytes = .ok content ↔ Spells bytes content := by
  cases bytes with
  | none => simp [text, Spells]
  | some given =>
    simp only [text, Option.bind_some, Spells, Option.some.injEq, exists_eq_left',
      ← Utf8.decode?_eq_some]
    split
    · rename_i read decoded
      rw [decoded, Except.ok.injEq, Option.some.injEq]
    · rename_i refused
      rw [refused]
      simp

theorem Argument.text_eq_error {operation : Operation} {bytes : Option Bytes}
    {violation : Violation} : text operation bytes = .error violation ↔
      (∀ content, ¬Spells bytes content) ∧ violation = .invalidText operation := by
  cases read : text operation bytes with
  | ok content =>
    have spelled := text_eq_ok.mp read
    simp only [reduceCtorEq, false_iff, not_and]
    intro illegible
    exact absurd spelled (illegible content)
  | error cause =>
    have illegible (content : String) : ¬Spells bytes content := by
      intro spelled
      rw [text_eq_ok.mpr spelled] at read
      contradiction
    have blamed : cause = .invalidText operation := by
      unfold text at read
      split at read
      · contradiction
      · exact (Except.error.inj read).symm
    rw [blamed, Except.error.injEq, eq_comm]
    exact (and_iff_right illegible).symm

end MatcherHost
