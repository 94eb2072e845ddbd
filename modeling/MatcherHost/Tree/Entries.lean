/-! Labelled entries in ascending label order, the order of code points. `insert` keeps the
order and lets the newer entry win; every list built from `[]` by it has strictly ascending
labels. -/
namespace MatcherHost

abbrev Entries (α : Type) := List (String × α)

namespace Entries

variable {α : Type}

/-- Puts an entry at its place, in the stead of one of the same label. -/
def insert (label : String) (value : α) : Entries α → Entries α
  | [] => [(label, value)]
  | (other, old) :: rest =>
    if label < other then (label, value) :: (other, old) :: rest
    else if label = other then (label, value) :: rest
    else (other, old) :: insert label value rest

def get? (label : String) : Entries α → Option α
  | [] => none
  | (other, value) :: rest => if label = other then some value else get? label rest

/-- Adds the entries of `newer` in order; they win over those of `older`. -/
def update (older newer : Entries α) : Entries α :=
  newer.foldl (fun entries entry => insert entry.1 entry.2 entries) older

/-- Entries listed in any order; of two with one label the later wins. -/
def ofList (listed : List (String × α)) : Entries α := update [] listed

def labels (entries : Entries α) : List String := entries.map Prod.fst

def Ascending (entries : Entries α) : Prop := entries.labels.Pairwise (· < ·)

instance (entries : Entries α) : Decidable entries.Ascending :=
  inferInstanceAs (Decidable (entries.labels.Pairwise (· < ·)))

/-- Nothing is looked up differently after an insertion but the label itself. -/
theorem get?_insert (label other : String) (value : α) (entries : Entries α) :
    get? other (insert label value entries) = if other = label then some value
      else get? other entries := by
  induction entries with
  | nil => simp [insert, get?]
  | cons entry rest ih =>
    obtain ⟨first, old⟩ := entry
    by_cases before : label < first
    · simp [insert, get?, before]
    · by_cases same : label = first
      · subst same
        simp only [insert, before, if_false, if_true, get?]
        split <;> rfl
      · by_cases h : other = first
        · subst h
          simp [insert, get?, before, same, Ne.symm same]
        · simp [insert, get?, before, same, h, ih]

theorem mem_labels_insert {label other : String} {value : α} {entries : Entries α} :
    other ∈ labels (insert label value entries) ↔ other = label ∨ other ∈ labels entries := by
  induction entries with
  | nil => simp [insert, labels]
  | cons entry rest ih =>
    obtain ⟨first, old⟩ := entry
    simp only [labels, List.map_cons, List.mem_cons] at ih ⊢
    by_cases before : label < first
    · simp [insert, before]
    · by_cases same : label = first
      · simp [insert, same]
      · simp only [insert, before, same, if_false, List.map_cons, List.mem_cons, ih]
        exact or_left_comm

theorem Ascending.insert {label : String} {value : α} {entries : Entries α}
    (ascending : entries.Ascending) : Ascending (insert label value entries) := by
  induction entries with
  | nil => simp [Entries.insert, Ascending, labels]
  | cons entry rest ih =>
    obtain ⟨first, old⟩ := entry
    obtain ⟨least, tail⟩ := List.pairwise_cons.mp ascending
    by_cases before : label < first
    · simp only [Entries.insert, before, if_true]
      refine List.pairwise_cons.mpr ⟨fun other member => ?_, ascending⟩
      rcases List.mem_cons.mp member with rfl | member
      · exact before
      · exact String.lt_trans before (least other member)
    · by_cases same : label = first
      · subst same
        simp only [Entries.insert, before, if_false, if_true]
        exact List.pairwise_cons.mpr ⟨least, tail⟩
      · simp only [Entries.insert, before, same, if_false]
        refine List.pairwise_cons.mpr ⟨fun other member => ?_, ih tail⟩
        rcases mem_labels_insert.mp member with rfl | member
        · exact Std.lt_of_le_of_ne (String.not_lt.mp before) (Ne.symm same)
        · exact least other member

theorem Ascending.update {older : Entries α} (ascending : older.Ascending) (newer : Entries α) :
    Ascending (update older newer) := by
  induction newer generalizing older with
  | nil => exact ascending
  | cons entry rest ih => exact ih ascending.insert

end Entries
end MatcherHost
