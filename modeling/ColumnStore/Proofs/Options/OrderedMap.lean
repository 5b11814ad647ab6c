import ColumnStore.Proofs.Options.LastWins
import ColumnStore.Proofs.Text.Dictionary

/-!
# Options as an ordered map

`Options.Made` lists the ways in which options come about, each with the entries that are written on
the way. However options were made, they hold every key once, in the order in which the keys were
first written, with the value that was written last. Putting them in key order keeps all of this but
the order, and keeps the order only if it is the order of the keys already.
-/

set_option autoImplicit false

namespace ColumnStore

namespace Options

/-- The keys, in the order in which the settings are listed. -/
def keys (options : Options) : List String :=
  options.entries.map Prod.fst

/-- Options that were made by writing entries, in this order. Merging other options writes to the
first ones all that was written to the others, and a dictionary is written in key order. -/
inductive Made : List (String × String) → Options → Prop
  | empty : Made [] Options.empty
  | set {sets : List (String × String)} {options : Options} (made : Made sets options)
      (key value : String) : Made (sets ++ [(key, value)]) (options.set key value)
  | merge {sets more : List (String × String)} {options other : Options}
      (made : Made sets options) (madeOther : Made more other) :
      Made (sets ++ more) (options.merge other)
  | pairs {texts : List String} {sets : List (String × String)} {options : Options}
      (hread : ofPairs texts = .ok options) (hgives : List.Forall₂ Gives texts sets) :
      Made sets options
  | objectStore (access secret endpoint : String) :
      Made [(accessKey, access), (secretKey, secret), (endpointKey, endpoint)]
        (Options.objectStore access secret endpoint)
  | dictionary {entries : Dictionary String} (hascending : entries.Ascending) :
      Made entries ⟨entries⟩

variable {sets more entries : List (String × String)} {options other : Options} {key : String}
  {keys : List String}

/-! ### Lists that hold no key twice -/

/-- Nothing is left out where nothing is repeated. -/
theorem eraseDups_of_nodup (h : keys.Nodup) : keys.eraseDups = keys := by
  induction keys with
  | nil => rfl
  | cons key rest ih =>
    obtain ⟨hkey, hrest⟩ := List.nodup_cons.mp h
    have hothers : rest.filter (fun other ↦ !other == key) = rest := by
      refine List.filter_eq_self.mpr fun other hother ↦ ?_
      have hne : other ≠ key := ne_of_mem_of_not_mem hother hkey
      simp [hne]
    rw [List.eraseDups_cons, hothers, ih hrest]

/-- Entries with different keys are what is left when they are set themselves. -/
theorem lastWins_of_nodup (h : (entries.map Prod.fst).Nodup) : LastWins entries entries where
  keys := (eraseDups_of_nodup h).symm
  last := by
    intro entry hentry
    obtain ⟨earlier, later, rfl⟩ := List.append_of_mem hentry
    rw [List.map_append, List.map_cons] at h
    exact ⟨earlier, later, rfl, (List.nodup_cons.mp (List.nodup_append.mp h).2.1).1⟩

/-! ### What was written last -/

/-- Entries for the keys that were set, each with the value that was set last, give every key this
value, in whatever order they stand. -/
theorem get?_eq_lastValue? (hkeys : ∀ key, key ∈ entries.map Prod.fst ↔ key ∈ sets.map Prod.fst)
    (hlast : ∀ entry ∈ entries, ∃ earlier later,
      sets = earlier ++ entry :: later ∧ entry.1 ∉ later.map Prod.fst) (key : String) :
    get? ⟨entries⟩ key = lastValue? sets key := by
  unfold get?
  cases hfound : entries.find? fun entry ↦ entry.1 == key with
  | none =>
    have habsent : key ∉ entries.map Prod.fst := by
      rintro hmem
      obtain ⟨entry, hentry, rfl⟩ := List.mem_map.mp hmem
      exact absurd (beq_self_eq_true entry.1) (List.find?_eq_none.mp hfound entry hentry)
    exact (lastValue?_of_not_mem (mt (hkeys key).mpr habsent)).symm
  | some entry =>
    have hkey := List.find?_some hfound
    obtain rfl : entry.1 = key := beq_iff_eq.mp hkey
    obtain ⟨earlier, later, rfl, hlater⟩ := hlast entry (List.mem_of_find?_eq_some hfound)
    rw [lastValue?_append, lastValue?_cons, lastValue?_of_not_mem hlater]
    simp

theorem LastWins.get?_eq (h : LastWins sets entries) (key : String) :
    get? ⟨entries⟩ key = lastValue? sets key :=
  get?_eq_lastValue? (fun _ ↦ h.mem_keys_iff) h.last key

/-- However options are made, what was written last wins. -/
theorem Made.lastWins (h : Made sets options) : LastWins sets options.entries := by
  induction h with
  | empty => exact lastWins_nil
  | set _ key value ih => exact ih.set key value
  | @merge _ _ _ other _ _ ih ihOther => exact (ih.setAll other.entries).congr_right ihOther
  | @pairs texts sets options hread hgives =>
    have hsets : ofPairs texts = .ok (ofEntries sets) := ofPairs_eq_ok_iff.mpr ⟨sets, hgives, rfl⟩
    obtain rfl : options = ofEntries sets := Except.ok.inj (hread.symm.trans hsets)
    exact lastWins_ofEntries sets
  | objectStore access secret endpoint => exact lastWins_ofEntries _
  | dictionary hascending => exact lastWins_of_nodup hascending.nodup

/-! ### Merging -/

theorem get?_merge (hother : other.keys.Nodup) (key : String) :
    (options.merge other).get? key = (other.get? key).or (options.get? key) := by
  unfold merge
  rw [get?_setAll, lastValue?_of_nodup hother]

/-- The keys of the first options stay in front, and those that are new come behind them. -/
theorem keys_merge (hfirst : options.keys.Nodup) (hother : other.keys.Nodup) :
    (options.merge other).keys = options.keys ++ other.keys.removeAll options.keys := by
  have hkeys := ((lastWins_of_nodup hfirst).setAll other.entries).keys
  have hnew : (other.keys.removeAll options.keys).Nodup := hother.filter _
  rw [List.map_append, List.eraseDups_append] at hkeys
  change (options.merge other).keys = options.keys.eraseDups ++
    (other.keys.removeAll options.keys).eraseDups at hkeys
  rw [hkeys, eraseDups_of_nodup hfirst, eraseDups_of_nodup hnew]

/-! ### Key order -/

theorem get?_sorted (h : options.keys.Nodup) (key : String) :
    options.sorted.get? key = options.get? key := by
  have hgathers := Dictionary.gathers_ofEntries options.entries
  have hsorted : options.sorted.get? key = lastValue? options.entries key :=
    get?_eq_lastValue? hgathers.keys hgathers.last key
  rw [hsorted, lastValue?_of_nodup h]

theorem length_sorted (h : options.keys.Nodup) : options.sorted.length = options.length := by
  have hgathers := Dictionary.gathers_ofEntries options.entries
  have hperm : options.sorted.keys.Perm options.keys :=
    (List.perm_ext_iff_of_nodup hgathers.ascending.nodup h).mpr hgathers.keys
  have hlength := hperm.length_eq
  rwa [keys, keys, List.length_map, List.length_map] at hlength

theorem sorted_eq_self_iff : options.sorted = options ↔ Dictionary.Ascending options.entries := by
  constructor
  · intro h
    have hascending := (Dictionary.gathers_ofEntries options.entries).ascending
    rwa [show Dictionary.ofEntries options.entries = options.entries from
      congrArg Options.entries h] at hascending
  · intro h
    rw [sorted, Dictionary.ofEntries_of_ascending h]

/-! ### The whole -/

/-- However options were made, no key occurs twice; a key has the value that was written last for
it; the keys are listed in the order in which they were first written, each with this value. Options
that are merged into them decide where they have a key, and their new keys come behind. In key order
the options have the same values and as many of them, with ascending keys, and they are the same
options exactly if the keys ascended before. -/
theorem made_keeps_order_and_last_values (h : Made sets options) :
    options.keys.Nodup ∧
      (∀ key, options.get? key = lastValue? sets key) ∧
      (options.keys = (sets.map Prod.fst).eraseDups ∧
        ∀ entry ∈ options.entries, lastValue? sets entry.1 = some entry.2) ∧
      (∀ more other, Made more other →
        (∀ key, (options.merge other).get? key = (other.get? key).or (options.get? key)) ∧
          (options.merge other).keys = options.keys ++ other.keys.removeAll options.keys) ∧
      (∀ key, options.sorted.get? key = options.get? key) ∧
      options.sorted.length = options.length ∧
      Dictionary.Ascending options.sorted.entries ∧
      (options.sorted = options ↔ Dictionary.Ascending options.entries) := by
  have hwins := h.lastWins
  have hnodup : options.keys.Nodup := hwins.nodup
  refine ⟨hnodup, hwins.get?_eq, ⟨hwins.keys, fun entry hentry ↦ ?_⟩, ?_, get?_sorted hnodup,
    length_sorted hnodup, (Dictionary.gathers_ofEntries options.entries).ascending,
    sorted_eq_self_iff⟩
  · obtain ⟨earlier, later, rfl, hlater⟩ := hwins.last entry hentry
    rw [lastValue?_append, lastValue?_cons, lastValue?_of_not_mem hlater]
    simp
  · intro more other hother
    have hotherNodup : other.keys.Nodup := hother.lastWins.nodup
    exact ⟨get?_merge hotherNodup, keys_merge hnodup hotherNodup⟩

/-- Options from a dictionary with texts merged into them, and a key set again. -/
def sampleSets : List (String × String) :=
  [("a", "1"), ("c", "2")] ++ [("b", "3"), ("a", "4 = 5")] ++ [("c", "")]

/-- What comes of them: the keys in the order of their first write. -/
def sampleOptions : Options := ⟨[("a", "4 = 5"), ("c", ""), ("b", "3")]⟩

theorem made_sampleOptions : Made sampleSets sampleOptions := by
  have hascending : Dictionary.Ascending [("a", "1"), ("c", "2")] := by
    simp only [Dictionary.Ascending]
    decide
  have htexts : List.Forall₂ Gives ["b=3", " a = 4 = 5 "] [("b", "3"), ("a", "4 = 5")] := by
    simp only [List.forall₂_cons, List.Forall₂.nil, ← readPair_eq_ok_iff]
    decide +kernel
  have hread : ofPairs ["b=3", " a = 4 = 5 "] = .ok ⟨[("b", "3"), ("a", "4 = 5")]⟩ := by
    decide +kernel
  exact ((Made.dictionary hascending).merge (.pairs hread htexts)).set "c" ""

theorem made_keeps_order_and_last_values_of_sample :
    Made sampleSets sampleOptions ∧ sampleOptions.keys = (sampleSets.map Prod.fst).eraseDups ∧
      sampleOptions.get? "a" = lastValue? sampleSets "a" ∧
      sampleOptions.sorted.length = 3 ∧ sampleOptions.sorted ≠ sampleOptions := by
  obtain ⟨-, hget, ⟨hkeys, -⟩, -, -, hlength, -, hsame⟩ :=
    made_keeps_order_and_last_values made_sampleOptions
  refine ⟨made_sampleOptions, hkeys, hget "a", hlength, mt hsame.mp ?_⟩
  simp only [Dictionary.Ascending]
  decide

end Options

end ColumnStore
