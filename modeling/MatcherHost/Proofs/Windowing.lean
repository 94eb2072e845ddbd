import MatcherHost.Proofs.Spelling
import MatcherHost.Reporting.Diagnostic

/-! The context of a diagnostic when the input is a text. The window is cut by bytes, so it may
begin inside a character; what is left of that character are bytes that only continue one, each of
them becomes a gap, and from the next boundary on the text is read as it is. -/
namespace MatcherHost

namespace Utf8

def spell (chars : List Char) : Bytes := chars.flatMap String.utf8EncodeChar

theorem spell_cons (char : Char) (rest : List Char) :
    spell (char :: rest) = String.utf8EncodeChar char ++ spell rest := List.flatMap_cons

theorem spell_append (front back : List Char) : spell (front ++ back) = spell front ++ spell back :=
  List.flatMap_append

theorem length_spell_le {front chars : List Char} (before : front <+: chars) :
    (spell front).length ≤ (spell chars).length := by
  obtain ⟨back, rfl⟩ := before
  rw [spell_append, List.length_append]
  exact Nat.le_add_right ..

theorem encode_ofList (chars : List Char) : encode (String.ofList chars) = spell chars := by
  rw [encode, String.toList_ofList, spell]

/-- Bytes that never begin a character. -/
def Continues (byte : UInt8) : Prop := 0x80 ≤ byte.toNat ∧ byte.toNat < 0xC0

theorem continues_ofNat (bits : Nat) : Continues (UInt8.ofNat (bits % 0x40 + 0x80)) := by
  have below : bits % 0x40 < 0x40 := Nat.mod_lt bits (by decide)
  have same : (UInt8.ofNat (bits % 0x40 + 0x80)).toNat = bits % 0x40 + 0x80 :=
    UInt8.toNat_ofNat_of_lt' (by change _ < 256; omega)
  rw [Continues, same]
  omega

/-- All bytes of a character but the first continue it. -/
theorem continues_of_mem_tail {char : Char} {byte : UInt8}
    (member : byte ∈ (String.utf8EncodeChar char).drop 1) : Continues byte := by
  unfold String.utf8EncodeChar at member
  generalize char.val.toNat = point at member
  simp only at member
  split at member
  · exact absurd member List.not_mem_nil
  split at member
  · rw [List.mem_singleton.mp member]
    exact continues_ofNat point
  split at member
  · rcases List.mem_cons.mp member with rfl | member
    · exact continues_ofNat (point / 64)
    rw [List.mem_singleton.mp member]
    exact continues_ofNat point
  · rcases List.mem_cons.mp member with rfl | member
    · exact continues_ofNat (point / 4096)
    rcases List.mem_cons.mp member with rfl | member
    · exact continues_ofNat (point / 64)
    rw [List.mem_singleton.mp member]
    exact continues_ofNat point

theorem scan_continues {byte : UInt8} (continues : Continues byte) (rest : Bytes) :
    scan (byte :: rest) = none :: scan rest := by
  have notOne : ¬byte.toNat < 0x80 := Nat.not_lt.mpr continues.1
  have gap : byte.toNat < 0xC2 := Nat.lt_trans continues.2 (by decide)
  have opened : opening byte.toNat = ([none], .start) := by simp [opening, notOne, gap]
  simp only [scan, scanFrom, step, opened, List.singleton_append]

/-- Bytes that continue no character are a gap each. -/
theorem scan_strays {strays : Bytes} (continuing : ∀ byte ∈ strays, Continues byte) (rest : Bytes) :
    scan (strays ++ rest) = List.replicate strays.length none ++ scan rest := by
  induction strays with
  | nil => rfl
  | cons byte strays ih =>
    obtain ⟨first, later⟩ := List.forall_mem_cons.mp continuing
    rw [List.cons_append, scan_continues first, ih later, List.length_cons, List.replicate_succ,
      List.cons_append]

theorem lossy_strays {strays : Bytes} (continuing : ∀ byte ∈ strays, Continues byte)
    (chars : List Char) :
    lossy (strays ++ spell chars) =
      String.ofList (List.replicate strays.length replacement) ++ String.ofList chars := by
  have read : scan (spell chars) = chars.map some := by
    have text := scan_encode (String.ofList chars)
    rwa [encode_ofList, String.toList_ofList] at text
  rw [lossy, scan_strays continuing, read, List.map_append, List.map_replicate, List.map_map,
    String.ofList_append]
  exact congrArg (fun shown => _ ++ String.ofList shown) (List.map_id chars)

/-- A place where the bytes of some characters are cut. A few bytes of the character that is cut are
left over, then comes the rest; and no boundary between the cut and the rest is passed over. -/
structure Cut (chars : List Char) (cut : Nat) (front : List Char) (strays : Bytes)
    (back : List Char) : Prop where
  split : chars = front ++ back
  left : (spell chars).drop cut = strays ++ spell back
  few : strays.length ≤ 3
  continuing : ∀ byte ∈ strays, Continues byte
  first : ∀ other, other <+: chars → cut ≤ (spell other).length →
    (spell front).length ≤ (spell other).length

theorem length_utf8EncodeChar_pos (char : Char) : 0 < (String.utf8EncodeChar char).length := by
  rw [String.length_utf8EncodeChar]
  exact char.utf8Size_pos

/-- The cut goes through the first character. -/
theorem cut_inside {char : Char} {cut : Nat} (positive : 0 < cut)
    (inside : cut < (String.utf8EncodeChar char).length) (rest : List Char) :
    Cut (char :: rest) cut [char] ((String.utf8EncodeChar char).drop cut) rest where
  split := rfl
  left := by rw [spell_cons, List.drop_append_of_le_length inside.le]
  few := by
    have size : (String.utf8EncodeChar char).length ≤ 4 := by
      rw [String.length_utf8EncodeChar]
      exact char.utf8Size_le_four
    rw [List.length_drop]
    omega
  continuing byte member :=
    continues_of_mem_tail (List.drop_subset_drop_left _ positive member)
  first other before past := by
    cases other with
    | nil => exact absurd past (Nat.not_le.mpr positive)
    | cons c more =>
      obtain ⟨rfl, _⟩ := List.cons_prefix_cons.mp before
      exact length_spell_le (List.cons_prefix_cons.mpr ⟨rfl, List.nil_prefix⟩)

theorem Cut.cons {chars front back : List Char} {cut : Nat} {strays : Bytes}
    (later : Cut chars cut front strays back) (char : Char) :
    Cut (char :: chars) ((String.utf8EncodeChar char).length + cut) (char :: front) strays
      back where
  split := congrArg (char :: ·) later.split
  left := by rw [spell_cons, List.drop_length_add_append, later.left]
  few := later.few
  continuing := later.continuing
  first other before past := by
    cases other with
    | nil =>
      have positive := length_utf8EncodeChar_pos char
      exact absurd past (Nat.not_le.mpr (Nat.add_pos_left positive cut))
    | cons c more =>
      obtain ⟨rfl, beforeToo⟩ := List.cons_prefix_cons.mp before
      rw [spell_cons, List.length_append] at past
      rw [spell_cons, spell_cons, List.length_append, List.length_append]
      exact Nat.add_le_add_left (later.first more beforeToo (Nat.le_of_add_le_add_left past)) _

theorem cut_start (chars : List Char) : Cut chars 0 [] [] chars where
  split := rfl
  left := rfl
  few := Nat.zero_le 3
  continuing := List.forall_mem_nil _
  first _ _ _ := Nat.zero_le _

theorem exists_cut (chars : List Char) (cut : Nat) :
    ∃ front strays back, Cut chars cut front strays back := by
  induction chars generalizing cut with
  | nil =>
    exact ⟨[], [], [], rfl, List.drop_nil, Nat.zero_le 3, List.forall_mem_nil _,
      fun _ _ _ => Nat.zero_le _⟩
  | cons char rest ih =>
    rcases Nat.eq_zero_or_pos cut with rfl | positive
    · exact ⟨_, _, _, cut_start (char :: rest)⟩
    rcases Nat.lt_or_ge cut (String.utf8EncodeChar char).length with inside | beyond
    · exact ⟨_, _, _, cut_inside positive inside rest⟩
    · obtain ⟨more, rfl⟩ := Nat.exists_eq_add_of_le beyond
      obtain ⟨front, strays, back, later⟩ := ih more
      exact ⟨_, _, _, later.cons char⟩

theorem take_encode {text : String} {front : List Char} (begins : front <+: text.toList) :
    (encode text).take (spell front).length = spell front := by
  obtain ⟨back, whole⟩ := begins
  have spelled : encode text = spell front ++ spell back := by
    rw [← spell_append, whole]
    rfl
  rw [spelled, List.take_left' rfl]

/-- A position between two characters of a text, or at one of its ends. -/
def Boundary (text : String) (position : Nat) : Prop :=
  ∃ front, front <+: text.toList ∧ (spell front).length = position

/-- What the first `position` bytes of a text end with, from a boundary of the text on. -/
def Ending (text : String) (position : Nat) (bytes : Bytes) : Prop :=
  ∃ start ≤ position, Boundary text start ∧ bytes = ((encode text).take position).drop start

/-- As much of a text before a position as fits into some bytes, in whole characters. -/
structure LongestEnding (text : String) (position width : Nat) (shown : String) : Prop where
  ending : Ending text position (encode shown)
  fits : (encode shown).length ≤ width
  longest : ∀ bytes, Ending text position bytes → bytes.length ≤ width →
    bytes.length ≤ (encode shown).length

section Window

variable {before front back : List Char} {width : Nat} {strays : Bytes}

/-- The bytes that are left when all but the last `width` are cut off. -/
theorem Cut.length_left (cut : Cut before ((spell before).length - width) front strays back) :
    strays.length + (spell back).length = min width (spell before).length := by
  have left := congrArg List.length cut.left
  rw [List.length_drop, List.length_append] at left
  omega

theorem Cut.longestEnding {text : String} (begins : before <+: text.toList)
    (cut : Cut before ((spell before).length - width) front strays back) :
    LongestEnding text (spell before).length width (String.ofList back) := by
  have whole : spell before = spell front ++ spell back := by rw [cut.split, spell_append]
  have lengths : (spell before).length = (spell front).length + (spell back).length := by
    rw [whole, List.length_append]
  refine ⟨?_, ?_, ?_⟩ <;> rw [encode_ofList]
  · have inside : front <+: before := cut.split ▸ List.prefix_append front back
    refine ⟨(spell front).length, length_spell_le inside, ⟨front, inside.trans begins, rfl⟩, ?_⟩
    rw [take_encode begins, whole, List.drop_left' rfl]
  · have left := cut.length_left
    omega
  · rintro bytes ⟨start, inside, ⟨other, beginsToo, rfl⟩, rfl⟩ fits
    rw [take_encode begins, List.length_drop] at fits ⊢
    -- Both boundaries are in one text, so the characters before one begin those before the other.
    rcases List.prefix_or_prefix_of_prefix beginsToo begins with shorter | longer
    · have passed := cut.first other shorter (by omega)
      omega
    · have late := length_spell_le longer
      omega

end Window

end Utf8

namespace Diagnostic

/-- A failure between two characters of a text. The context begins with a replacement character for
each byte that is left of a character cut by the window, three at most, and goes on with as much
of the text before the failure as the window has room for. -/
theorem context_of_text (text : String) (contextBytes : Nat) (failures : Failures)
    (boundary : Utf8.Boundary text (failures.position.getD 0)) :
    let position := failures.position.getD 0
    let diagnostic := ofFailures contextBytes (Utf8.encode text) failures
    ∃ (gaps : Nat) (shown : String),
      diagnostic.context = String.ofList (List.replicate gaps Utf8.replacement) ++ shown ∧
      Utf8.LongestEnding text position contextBytes shown ∧
      gaps + (Utf8.encode shown).length = min contextBytes position ∧
      gaps ≤ 3 := by
  intro position diagnostic
  obtain ⟨before, begins, (length : (Utf8.spell before).length = position)⟩ := boundary
  obtain ⟨front, strays, back, cut⟩ :=
    Utf8.exists_cut before ((Utf8.spell before).length - contextBytes)
  refine ⟨strays.length, String.ofList back, ?_, length ▸ cut.longestEnding begins, ?_, cut.few⟩
  · have window : lastBytes contextBytes ((Utf8.encode text).take position) =
        strays ++ Utf8.spell back := by
      rw [← cut.left, lastBytes, ← Utf8.take_encode begins, length]
    exact (congrArg Utf8.lossy window).trans (Utf8.lossy_strays cut.continuing back)
  · rw [Utf8.encode_ofList, cut.length_left, length]

/-- Three bytes are shown, the last two of a character of four and all of the next. -/
theorem context_of_text_cut :
    Utf8.Boundary "a😀b" 6 ∧
    (ofFailures 3 (Utf8.encode "a😀b") ⟨some 6, ["c"], []⟩).context = "\uFFFD\uFFFDb" ∧
    Utf8.LongestEnding "a😀b" 6 3 "b" ∧
    2 + (Utf8.encode "b").length = min 3 6 := by
  have boundary : Utf8.Boundary "a😀b" 6 := ⟨"a😀b".toList, List.prefix_rfl, by decide +kernel⟩
  have context : (ofFailures 3 (Utf8.encode "a😀b") ⟨some 6, ["c"], []⟩).context =
      "\uFFFD\uFFFDb" := by decide +kernel
  obtain ⟨gaps, shown, parts, longest, room, few⟩ :=
    context_of_text "a😀b" 3 ⟨some 6, ["c"], []⟩ boundary
  have texts := congrArg String.toList (parts.symm.trans context)
  rw [String.toList_append, String.toList_ofList] at texts
  -- With fewer gaps what is shown would take more than three bytes, and no third one is there.
  obtain ⟨rfl, rfl⟩ : gaps = 2 ∧ shown = "b" := by
    rcases gaps with _ | _ | _ | _ | more
    · obtain rfl : shown = "\uFFFD\uFFFDb" := String.toList_inj.mp texts
      contradiction
    · obtain rfl : shown = "\uFFFDb" := String.toList_inj.mp (List.cons.inj texts).2
      contradiction
    · exact ⟨rfl, String.toList_inj.mp (List.cons.inj (List.cons.inj texts).2).2⟩
    · have third : some Utf8.replacement = some 'b' := congrArg (·[2]?) texts
      contradiction
    · omega
  exact ⟨boundary, context, longest, room⟩

end Diagnostic
end MatcherHost
