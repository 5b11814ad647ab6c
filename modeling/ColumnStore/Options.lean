import ColumnStore.Error
import ColumnStore.Text.Blank
import ColumnStore.Text.Dictionary

/-!
# Options

`Options` are settings for a storage layer, by key. Setting a new key adds it behind the others and
setting a known key changes its value in place, so no key occurs twice and the keys are listed in
the order in which they were first set. `Options.ofPairs` reads `key=value` texts.
-/

set_option autoImplicit false

namespace ColumnStore

/-- Settings by key, in the order in which the keys were first set. -/
structure Options where
  entries : List (String × String)
  deriving DecidableEq, Repr

namespace Options

/-- No settings. -/
def empty : Options := ⟨[]⟩

/-- Gives a key its value among entries, in place if the key is there. -/
def setEntry (key value : String) : List (String × String) → List (String × String)
  | [] => [(key, value)]
  | entry :: rest =>
    if entry.1 = key then (key, value) :: rest else entry :: setEntry key value rest

/-- Sets a key. -/
def set (options : Options) (key value : String) : Options :=
  ⟨setEntry key value options.entries⟩

/-- The value of a key. -/
def get? (options : Options) (key : String) : Option String :=
  (options.entries.find? fun entry ↦ entry.1 == key).map Prod.snd

/-- Sets every entry of a list, in its order. -/
def setAll (options : Options) (entries : List (String × String)) : Options :=
  entries.foldl (fun options entry ↦ options.set entry.1 entry.2) options

/-- The options with everything that `other` sets. -/
def merge (options other : Options) : Options :=
  options.setAll other.entries

/-- The options of a list of entries, of which later ones win. -/
def ofEntries (entries : List (String × String)) : Options :=
  empty.setAll entries

/-- The count of keys. -/
def length (options : Options) : Nat := options.entries.length

/-- Are there no settings? -/
def isEmpty (options : Options) : Bool := options.entries.isEmpty

/-- The settings in key order. -/
def sorted (options : Options) : Options := ⟨Dictionary.ofEntries options.entries⟩

/-- The key of the name under which an object store grants access. -/
def accessKey : String := "fs.s3a.access.key"

/-- The key of the secret that goes with the access key. -/
def secretKey : String := "fs.s3a.secret.key"

/-- The key of the address of an object store. -/
def endpointKey : String := "fs.s3a.endpoint"

/-- The three settings of an object store. -/
def objectStore (access secret endpoint : String) : Options :=
  ofEntries [(accessKey, access), (secretKey, secret), (endpointKey, endpoint)]

/-- Reads a `key=value` text. Blanks around the key and around the value do not belong to them. -/
def readPair (text : String) : Except Error (String × String) :=
  match Text.splitFirst '=' text with
  | none => .error (.config ("expected key=value, got '" ++ text ++ "'"))
  | some (key, value) =>
    if Text.trim key = "" then .error (.config ("empty key in '" ++ text ++ "'"))
    else .ok (Text.trim key, Text.trim value)

/-- Reads `key=value` texts, of which later ones win. -/
def ofPairs (texts : List String) : Except Error Options := do
  let entries ← texts.mapM readPair
  .ok (ofEntries entries)

theorem get?_set_self (options : Options) (key value : String) :
    (options.set key value).get? key = some value := by
  obtain ⟨entries⟩ := options
  induction entries with
  | nil => simp [set, setEntry, get?]
  | cons entry rest ih =>
    simp only [set, setEntry, get?] at ih ⊢
    split
    · simp
    · rename_i hne
      simpa [List.find?_cons, hne] using ih

theorem get?_set_of_ne (options : Options) {key other : String} (hne : key ≠ other)
    (value : String) : (options.set key value).get? other = options.get? other := by
  obtain ⟨entries⟩ := options
  induction entries with
  | nil => simp [set, setEntry, get?, hne]
  | cons entry rest ih =>
    simp only [set, setEntry, get?] at ih ⊢
    split
    · rename_i hkey
      simp [hne, hkey]
    · simp only [List.find?_cons]
      split
      · rfl
      · exact ih

end Options

end ColumnStore
