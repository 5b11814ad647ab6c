import ColumnStore.Text.Order

/-!
# Dictionaries in key order

A `Dictionary` maps texts to items and lists its entries with ascending keys. `Dictionary.insert`
keeps the order and gives an existing key a new item, so of several entries with one key the last
one stays.
-/

set_option autoImplicit false

namespace ColumnStore

/-- Entries with ascending keys, no key twice. -/
abbrev Dictionary (α : Type) := List (String × α)

namespace Dictionary

variable {α : Type}

/-- Puts `key` in its place with the given item. -/
def insert (key : String) (item : α) : Dictionary α → Dictionary α
  | [] => [(key, item)]
  | entry :: rest =>
    match Text.compareTexts key entry.1 with
    | .lt => (key, item) :: entry :: rest
    | .eq => (key, item) :: rest
    | .gt => entry :: insert key item rest

/-- The item of a key. -/
def get? (key : String) : Dictionary α → Option α
  | [] => none
  | entry :: rest => if entry.1 = key then some entry.2 else get? key rest

/-- Takes out a key. -/
def erase (key : String) (dictionary : Dictionary α) : Dictionary α :=
  dictionary.filter fun entry ↦ entry.1 != key

/-- The dictionary of a list of entries, of which later ones win. -/
def ofEntries (entries : List (String × α)) : Dictionary α :=
  entries.foldl (fun dictionary entry ↦ dictionary.insert entry.1 entry.2) []

theorem get?_insert_self (key : String) (item : α) (dictionary : Dictionary α) :
    (dictionary.insert key item).get? key = some item := by
  induction dictionary with
  | nil => simp [insert, get?]
  | cons entry rest ih =>
    simp only [insert]
    split
    · simp [get?]
    · simp [get?]
    · rename_i horder
      have hne : entry.1 ≠ key := by
        intro heq
        rw [heq, Text.compareTexts_self] at horder
        simp at horder
      simp [get?, hne, ih]

theorem get?_insert_of_ne {key other : String} (hne : key ≠ other) (item : α)
    (dictionary : Dictionary α) :
    (dictionary.insert key item).get? other = dictionary.get? other := by
  induction dictionary with
  | nil => simp [insert, get?, hne]
  | cons entry rest ih =>
    simp only [insert]
    split
    · simp [get?, hne]
    · rename_i horder
      have heq := Text.eq_of_compareTexts horder
      simp [get?, hne, ← heq]
    · simp [get?, ih]

theorem get?_erase_self (key : String) (dictionary : Dictionary α) :
    (dictionary.erase key).get? key = none := by
  induction dictionary with
  | nil => rfl
  | cons entry rest ih =>
    by_cases h : entry.1 = key
    · simpa [erase, h] using ih
    · simpa [erase, get?, h] using ih

end Dictionary

end ColumnStore
