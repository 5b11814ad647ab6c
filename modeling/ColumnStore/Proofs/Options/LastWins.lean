import ColumnStore.Options
import ColumnStore.Proofs.Text.Trimming
import ColumnStore.Proofs.Traversal
import Mathlib.Data.List.DropRight

/-!
# Options set one after the other

However often and in whatever order keys are set, options hold one entry for each key: the keys in
the order in which they were first set, each with the value that was set last. `Options.LastWins`
says this of a list of entries without regard to how it was made, and `Options.lastValue?` is the
value under which a key is then found.
-/

set_option autoImplicit false

namespace ColumnStore

namespace Options

/-- The entries hold each key that is set once, in the order in which the keys are first set, with
the value that is set last. -/
structure LastWins (sets entries : List (String × String)) : Prop where
  keys : entries.map Prod.fst = (sets.map Prod.fst).eraseDups
  last : ∀ entry ∈ entries, ∃ earlier later,
    sets = earlier ++ entry :: later ∧ entry.1 ∉ later.map Prod.fst

variable {sets more entries : List (String × String)} {key value : String} {keys : List String}

/-! ### Keys, each once -/

theorem nodup_eraseDups (keys : List String) : keys.eraseDups.Nodup := by
  cases keys with
  | nil => simp
  | cons key rest =>
    rw [List.eraseDups_cons, List.nodup_cons]
    constructor
    · simp [List.mem_eraseDups]
    · exact nodup_eraseDups (rest.filter fun other ↦ !other == key)
termination_by keys.length
decreasing_by
  exact Nat.lt_succ_of_le (List.length_filter_le _ _)

/-- A key that is not there need not be left out. -/
theorem filter_eraseDups_of_not_mem (h : key ∉ keys) :
    keys.eraseDups.filter (fun other ↦ !other == key) = keys.eraseDups := by
  refine List.filter_eq_self.mpr fun other hother ↦ ?_
  have hmem := List.mem_eraseDups.mp hother
  have hne : other ≠ key := ne_of_mem_of_not_mem hmem h
  simp [hne]

/-- Taking keys out and leaving repeated ones out can be done in either order. -/
theorem eraseDups_removeAll_eraseDups (seen keys : List String) :
    (keys.eraseDups.removeAll seen).eraseDups = (keys.removeAll seen).eraseDups := by
  cases keys with
  | nil => simp
  | cons key rest =>
    have ih := eraseDups_removeAll_eraseDups seen (rest.filter fun other ↦ !other == key)
    have hgone : key ∉ rest.filter fun other ↦ !other == key := by
      simp
    rw [List.eraseDups_cons]
    unfold List.removeAll at ih ⊢
    by_cases hseen : key ∈ seen
    · have hsame : (rest.filter fun other ↦ !other == key).filter (fun other ↦ !seen.elem other) =
          rest.filter fun other ↦ !seen.elem other := by
        rw [List.filter_filter]
        refine List.filter_congr fun other _ ↦ ?_
        by_cases hother : other = key <;> simp [hother, hseen]
      rw [List.filter_cons_of_neg (by simp [hseen]), List.filter_cons_of_neg (by simp [hseen]), ih,
        hsame]
    · rw [List.filter_cons_of_pos (by simp [hseen]), List.filter_cons_of_pos (by simp [hseen]),
        List.eraseDups_cons, List.eraseDups_cons, List.filter_comm,
        filter_eraseDups_of_not_mem hgone, ih, List.filter_comm]
termination_by keys.length
decreasing_by
  exact Nat.lt_succ_of_le (List.length_filter_le _ _)

/-! ### Setting a key -/

theorem map_fst_setEntry (key value : String) (entries : List (String × String)) :
    (setEntry key value entries).map Prod.fst =
      if key ∈ entries.map Prod.fst then entries.map Prod.fst
      else entries.map Prod.fst ++ [key] := by
  induction entries with
  | nil => rfl
  | cons entry rest ih =>
    unfold setEntry
    by_cases hkey : entry.1 = key
    · simp [hkey]
    · rw [if_neg hkey, List.map_cons, ih]
      by_cases hmem : key ∈ rest.map Prod.fst
      · simp [hmem]
      · simp [hmem, Ne.symm hkey]

/-- Setting a key replaces the entry with the key, if it is there only once. -/
theorem mem_setEntry (hdistinct : (entries.map Prod.fst).Nodup) {entry : String × String}
    (h : entry ∈ setEntry key value entries) :
    entry = (key, value) ∨ entry ∈ entries ∧ entry.1 ≠ key := by
  induction entries with
  | nil => exact .inl (List.mem_singleton.mp h)
  | cons first rest ih =>
    rw [List.map_cons, List.nodup_cons] at hdistinct
    unfold setEntry at h
    by_cases hkey : first.1 = key
    · rw [if_pos hkey] at h
      rcases List.mem_cons.mp h with rfl | hmem
      · exact .inl rfl
      · refine .inr ⟨List.mem_cons_of_mem _ hmem, fun hsame ↦ hdistinct.1 ?_⟩
        rw [hkey, ← hsame]
        exact List.mem_map_of_mem hmem
    · rw [if_neg hkey] at h
      rcases List.mem_cons.mp h with rfl | hmem
      · exact .inr ⟨List.mem_cons_self, hkey⟩
      · refine (ih hdistinct.2 hmem).imp id fun hother ↦ ?_
        exact ⟨List.mem_cons_of_mem _ hother.1, hother.2⟩

theorem lastWins_nil : LastWins [] [] :=
  ⟨rfl, List.forall_mem_nil _⟩

theorem LastWins.nodup (h : LastWins sets entries) : (entries.map Prod.fst).Nodup := by
  rw [h.keys]
  exact nodup_eraseDups _

/-- The keys are those that were set. -/
theorem LastWins.mem_keys_iff (h : LastWins sets entries) :
    key ∈ entries.map Prod.fst ↔ key ∈ sets.map Prod.fst := by
  rw [h.keys, List.mem_eraseDups]

theorem LastWins.set (h : LastWins sets entries) (key value : String) :
    LastWins (sets ++ [(key, value)]) (setEntry key value entries) where
  keys := by
    rw [map_fst_setEntry, List.map_append, List.eraseDups_append, ← h.keys]
    by_cases hmem : key ∈ entries.map Prod.fst
    · have hset := h.mem_keys_iff.mp hmem
      simp [hmem, List.removeAll, hset]
    · have hset := mt h.mem_keys_iff.mpr hmem
      simp [hmem, List.removeAll, hset, List.eraseDups_cons]
  last := by
    intro entry hentry
    rcases mem_setEntry h.nodup hentry with rfl | ⟨hold, hne⟩
    · exact ⟨sets, [], rfl, List.not_mem_nil⟩
    · obtain ⟨earlier, later, hsplit, hlast⟩ := h.last entry hold
      refine ⟨earlier, later ++ [(key, value)], ?_, ?_⟩
      · rw [hsplit, List.append_assoc, List.cons_append]
      · simp [hlast, hne]

/-- Setting several entries, in their order. -/
theorem LastWins.setAll (h : LastWins sets entries) (more : List (String × String)) :
    LastWins (sets ++ more) (Options.setAll ⟨entries⟩ more).entries := by
  induction more generalizing sets entries with
  | nil => simpa [Options.setAll] using h
  | cons entry rest ih =>
    have hrest := ih (h.set entry.1 entry.2)
    rwa [List.append_assoc] at hrest

theorem lastWins_ofEntries (sets : List (String × String)) :
    LastWins sets (ofEntries sets).entries :=
  lastWins_nil.setAll sets

/-- Entries may stand for what was set to come to them. -/
theorem LastWins.congr_right {first entries settled : List (String × String)}
    (h : LastWins (first ++ settled) entries) (hsettled : LastWins more settled) :
    LastWins (first ++ more) entries where
  keys := by
    rw [h.keys, List.map_append, List.map_append, List.eraseDups_append, List.eraseDups_append,
      hsettled.keys, eraseDups_removeAll_eraseDups]
  last := by
    intro entry hentry
    obtain ⟨earlier, later, hsplit, hlast⟩ := h.last entry hentry
    by_cases hmem : entry ∈ settled
    · obtain ⟨before, behind, rfl, hbehind⟩ := hsettled.last entry hmem
      exact ⟨first ++ before, behind, by simp, hbehind⟩
    · rcases List.append_eq_append_iff.mp hsplit with
        ⟨between, rfl, hbetween⟩ | ⟨between, rfl, hbetween⟩
      · exact absurd (by simp [hbetween]) hmem
      · cases between with
        | nil =>
          have hhead : entry ∈ [] ++ settled := hbetween ▸ List.mem_cons_self
          exact absurd hhead hmem
        | cons own between =>
          obtain ⟨rfl, rfl⟩ : entry = own ∧ later = between ++ settled := List.cons.inj hbetween
          rw [List.map_append, List.mem_append, hsettled.mem_keys_iff, ← List.mem_append,
            ← List.map_append] at hlast
          exact ⟨earlier, between ++ more, by simp, hlast⟩

/-! ### Looking a key up -/

/-- The value that a key is given last. -/
def lastValue? (sets : List (String × String)) (key : String) : Option String :=
  (sets.reverse.find? fun entry ↦ entry.1 == key).map Prod.snd

theorem lastValue?_append (sets more : List (String × String)) (key : String) :
    lastValue? (sets ++ more) key = (lastValue? more key).or (lastValue? sets key) := by
  unfold lastValue?
  rw [List.reverse_append, List.find?_append, Option.map_or]

theorem lastValue?_singleton (entry : String × String) (key : String) :
    lastValue? [entry] key = if entry.1 = key then some entry.2 else none := by
  by_cases hkey : entry.1 = key <;> simp [lastValue?, hkey]

theorem lastValue?_cons (entry : String × String) (sets : List (String × String)) (key : String) :
    lastValue? (entry :: sets) key =
      (lastValue? sets key).or (if entry.1 = key then some entry.2 else none) := by
  rw [← List.singleton_append, lastValue?_append, lastValue?_singleton]

/-- A key that is not set has no value. -/
theorem lastValue?_of_not_mem (h : key ∉ sets.map Prod.fst) : lastValue? sets key = none := by
  unfold lastValue?
  rw [Option.map_eq_none_iff, List.find?_eq_none]
  rintro entry hentry hkey
  refine h (beq_iff_eq.mp hkey ▸ List.mem_map_of_mem ?_)
  exact List.mem_reverse.mp hentry

/-- Where no key occurs twice, the first entry of a key is also its last one. -/
theorem lastValue?_of_nodup (h : (entries.map Prod.fst).Nodup) (key : String) :
    lastValue? entries key = get? ⟨entries⟩ key := by
  induction entries with
  | nil => rfl
  | cons entry rest ih =>
    rw [List.map_cons, List.nodup_cons] at h
    rw [lastValue?_cons]
    by_cases hkey : entry.1 = key
    · have hnone : lastValue? rest key = none := lastValue?_of_not_mem (hkey ▸ h.1)
      simp [hnone, hkey, get?]
    · simpa [hkey, get?] using ih h.2

/-- Setting entries gives each key its last value among them, and leaves the others theirs. -/
theorem get?_setAll (options : Options) (sets : List (String × String)) (key : String) :
    (options.setAll sets).get? key = (lastValue? sets key).or (options.get? key) := by
  induction sets generalizing options with
  | nil => rfl
  | cons entry rest ih =>
    have hrest : (options.setAll (entry :: rest)).get? key =
        (lastValue? rest key).or ((options.set entry.1 entry.2).get? key) := ih _
    rw [hrest, lastValue?_cons, Option.or_assoc]
    by_cases hkey : entry.1 = key
    · subst hkey
      simp [get?_set_self]
    · simp [get?_set_of_ne options hkey, hkey]

/-- Merging options that were set one after the other is setting their entries. -/
theorem get?_merge_ofEntries (options : Options) (sets : List (String × String)) (key : String) :
    (options.merge (ofEntries sets)).get? key = (lastValue? sets key).or (options.get? key) := by
  have hsettled : lastValue? (ofEntries sets).entries key = lastValue? sets key := by
    rw [lastValue?_of_nodup (lastWins_ofEntries sets).nodup]
    have hempty : (ofEntries sets).get? key = (lastValue? sets key).or (empty.get? key) :=
      get?_setAll empty sets key
    rw [hempty]
    exact Option.or_none
  unfold merge
  rw [get?_setAll, hsettled]

/-! ### Texts that set options -/

/-- A text that sets a key: something that is not all blank stands before its first `=`. -/
def IsPair (text : String) : Prop :=
  ∃ key value, text.toList = key ++ '=' :: value ∧ '=' ∉ key ∧ ∃ c ∈ key, Text.isBlank c = false

/-- A text sets a key: the key stands before the first `=` and the value behind it, with or without
blanks around them. -/
def Gives (text : String) (entry : String × String) : Prop :=
  ∃ key value, text.toList = key ++ '=' :: value ∧ '=' ∉ key ∧ entry.1 ≠ "" ∧
    entry = (Text.trim (String.ofList key), Text.trim (String.ofList value))

theorem trim_eq_empty_iff {key : String} :
    Text.trim key = "" ↔ ∀ c ∈ key.toList, Text.isBlank c = true := by
  have hempty : Text.trim key = "" ↔ Text.trimChars key.toList = [] := by
    unfold Text.trim
    rw [← String.toList_inj, String.toList_ofList]
    rfl
  exact hempty.trans Text.trimChars_eq_nil_iff

/-- What a text sets is what is read from it. -/
theorem readPair_eq_ok_iff {text : String} {entry : String × String} :
    readPair text = .ok entry ↔ Gives text entry := by
  unfold readPair Text.splitFirst
  constructor
  · intro hentry
    cases hcut : Text.cutFirst '=' text.toList with
    | none => simp [hcut] at hentry
    | some parts =>
      obtain ⟨key, value⟩ := parts
      obtain ⟨htext, hkey⟩ := Text.cutFirst_eq_some hcut
      by_cases hempty : Text.trim (String.ofList key) = ""
      · simp [hcut, hempty] at hentry
      · simp only [hcut, Option.map_some, if_neg hempty, Except.ok.injEq] at hentry
        subst hentry
        exact ⟨key, value, htext, hkey, hempty, rfl⟩
  · rintro ⟨key, value, htext, hkey, hempty, rfl⟩
    rw [htext, Text.cutFirst_append_cons hkey]
    exact if_neg hempty

/-- These are the texts that can be read. -/
theorem isPair_iff {text : String} : IsPair text ↔ ∃ entry, readPair text = .ok entry := by
  constructor
  · rintro ⟨key, value, htext, hkey, c, hc, hblank⟩
    have hnot : Text.trim (String.ofList key) ≠ "" := by
      rw [Ne, trim_eq_empty_iff, String.toList_ofList]
      intro hall
      simp [hall c hc] at hblank
    exact ⟨(Text.trim (String.ofList key), Text.trim (String.ofList value)),
      readPair_eq_ok_iff.mpr ⟨key, value, htext, hkey, hnot, rfl⟩⟩
  · rintro ⟨entry, hentry⟩
    obtain ⟨key, value, htext, hkey, hempty, rfl⟩ := readPair_eq_ok_iff.mp hentry
    rw [Ne, trim_eq_empty_iff, String.toList_ofList] at hempty
    obtain ⟨c, hc⟩ := not_forall.mp hempty
    obtain ⟨hmem, hblank⟩ := Classical.not_imp.mp hc
    exact ⟨key, value, htext, hkey, c, hmem, Bool.eq_false_iff.mpr hblank⟩

/-- Texts that set options can be read together if each of them can be. -/
theorem ofPairs_eq_ok_iff {texts : List String} {options : Options} :
    ofPairs texts = .ok options ↔
      ∃ sets, List.Forall₂ Gives texts sets ∧ options = ofEntries sets := by
  unfold ofPairs
  rw [bind_eq_ok_iff]
  simp only [mapM_eq_ok_iff, readPair_eq_ok_iff, Except.ok.injEq, eq_comm (b := options)]

theorem exists_ofPairs_eq_ok_iff {texts : List String} :
    (∃ options, ofPairs texts = .ok options) ↔ ∀ text ∈ texts, IsPair text := by
  simp only [ofPairs_eq_ok_iff, isPair_iff, readPair_eq_ok_iff]
  constructor
  · rintro ⟨_, sets, hsets, rfl⟩ text htext
    obtain ⟨entry, -, hentry⟩ := exists_of_mem_forall₂ hsets.flip htext
    exact ⟨entry, hentry⟩
  · intro htexts
    obtain ⟨sets, hsets⟩ := exists_forall₂ htexts
    exact ⟨_, sets, hsets, rfl⟩

theorem exists_ofPairs_eq_error_iff {texts : List String} :
    (∃ error, ofPairs texts = .error error) ↔ ∃ text ∈ texts, ¬ IsPair text := by
  have hok : (∀ options, ofPairs texts ≠ .ok options) ↔ ∃ text ∈ texts, ¬ IsPair text := by
    simpa using exists_ofPairs_eq_ok_iff.not
  rw [← hok]
  cases ofPairs texts <;> simp

/-- Texts that cannot be read are refused for the first one that cannot be. -/
theorem ofPairs_eq_error_iff {texts : List String} {error : Error} :
    ofPairs texts = .error error ↔ ∃ before text after, texts = before ++ text :: after ∧
      (∀ earlier ∈ before, IsPair earlier) ∧ readPair text = .error error := by
  unfold ofPairs
  simp only [isPair_iff, ← mapM_eq_error_iff]
  cases texts.mapM readPair <;> simp [bind, Except.bind]

end Options

end ColumnStore
