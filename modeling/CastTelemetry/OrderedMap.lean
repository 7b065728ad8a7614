import Mathlib.Data.List.Sort

/-!
# Ordered maps

The subscriber keeps its frame cache and its packet pairing map in `std::map`s, and evicts
through `begin()`, the entry with the smallest key. An `OrderedMap` is the list of entries
in strictly increasing key order, so `begin()` is the head of the list. Its operations are
the ones the source uses: `find`, `insert` (which never overwrites an existing key),
`erase` of a key, `erase(begin())`, update of the value found, and `size`.

Each operation has its lemmas here, stated through `find` and `size`, and the rest of the
development uses only those.
-/

namespace CastTelemetry

/-- The entries of a `std::map` in increasing key order. -/
structure OrderedMap (K V : Type) [LinearOrder K] where
  entries : List (K × V)
  sorted : (entries.map Prod.fst).Sorted (· < ·)

namespace OrderedMap

variable {K V : Type} [LinearOrder K]

/-- The value stored under a key, in a list of entries. -/
def findEntry (key : K) : List (K × V) → Option V
  | [] => none
  | entry :: rest => if entry.1 = key then some entry.2 else findEntry key rest

/-- Insert an entry at its place in key order, unless the key is already present. -/
def insertEntry (key : K) (value : V) : List (K × V) → List (K × V)
  | [] => [(key, value)]
  | entry :: rest =>
    if key < entry.1 then (key, value) :: entry :: rest
    else if key = entry.1 then entry :: rest
    else entry :: insertEntry key value rest

/-- Every key after insertion is the inserted key or was there before. -/
theorem mem_insertEntry_keys {key key' : K} {value : V} {entries : List (K × V)}
    (member : key' ∈ (insertEntry key value entries).map Prod.fst) :
    key' = key ∨ key' ∈ entries.map Prod.fst := by
  induction entries with
  | nil => simpa [insertEntry] using member
  | cons entry rest inductionHypothesis =>
    unfold insertEntry at member
    split_ifs at member <;> simp only [List.map_cons, List.mem_cons] at member ⊢
    · exact member.elim .inl .inr
    · exact .inr member
    · exact member.elim (fun same => .inr (.inl same))
        fun later => (inductionHypothesis later).imp id .inr

/-- Insertion keeps the keys strictly increasing. -/
theorem insertEntry_sorted (key : K) (value : V) {entries : List (K × V)}
    (sorted : (entries.map Prod.fst).Sorted (· < ·)) :
    ((insertEntry key value entries).map Prod.fst).Sorted (· < ·) := by
  induction entries with
  | nil => simp [insertEntry]
  | cons entry rest inductionHypothesis =>
    rw [List.map_cons, List.sorted_cons] at sorted
    unfold insertEntry
    split_ifs with before same
    · rw [List.map_cons, List.sorted_cons]
      refine ⟨fun later member => ?_, List.sorted_cons.mpr sorted⟩
      rw [List.map_cons, List.mem_cons] at member
      rcases member with rfl | later
      · exact before
      · exact before.trans (sorted.1 _ later)
    · simpa using sorted
    · rw [List.map_cons, List.sorted_cons]
      refine ⟨fun later member => ?_, inductionHypothesis sorted.2⟩
      rcases mem_insertEntry_keys member with rfl | later
      · exact lt_of_le_of_ne (not_lt.mp before) (Ne.symm same)
      · exact sorted.1 _ later

/-- The empty map. -/
def empty : OrderedMap K V := ⟨[], List.sorted_nil⟩

/-- `size()`. -/
def size (map : OrderedMap K V) : Nat := map.entries.length

/-- `find(key)`: the value stored under the key, if any. -/
def find (map : OrderedMap K V) (key : K) : Option V := findEntry key map.entries

/-- `begin()`: the entry with the smallest key, if any. -/
def begin (map : OrderedMap K V) : Option (K × V) := map.entries.head?

/-- `insert(make_pair(key, value))`: a no-op when the key is present. -/
def insert (map : OrderedMap K V) (key : K) (value : V) : OrderedMap K V :=
  ⟨insertEntry key value map.entries, insertEntry_sorted key value map.sorted⟩

/-- `erase(key)`. -/
def erase (map : OrderedMap K V) (key : K) : OrderedMap K V :=
  ⟨map.entries.filter (fun entry => entry.1 ≠ key),
    map.sorted.sublist ((List.filter_sublist _).map _)⟩

/-- `erase(begin())`. -/
def eraseBegin (map : OrderedMap K V) : OrderedMap K V :=
  ⟨map.entries.tail, by simpa [List.map_tail] using map.sorted.tail⟩

/-- Update the value found under a key, as `it->second.field = ...` does. -/
def modify (map : OrderedMap K V) (key : K) (update : V → V) : OrderedMap K V :=
  ⟨map.entries.map (fun entry => if entry.1 = key then (entry.1, update entry.2) else entry),
    by
      have sameKeys : (map.entries.map (fun entry =>
          if entry.1 = key then (entry.1, update entry.2) else entry)).map Prod.fst =
          map.entries.map Prod.fst := by
        simp only [List.map_map]
        congr 1
        funext entry
        by_cases same : entry.1 = key <;> simp [same]
      exact sameKeys ▸ map.sorted⟩

/-- The keys present, in increasing order. -/
def keys (map : OrderedMap K V) : List K := map.entries.map Prod.fst

/-- The number of stored values that pass a test. -/
def countValues (test : V → Bool) (map : OrderedMap K V) : Nat :=
  map.entries.countP fun entry => test entry.2

section Lemmas

/-- A key is found exactly when it is listed. -/
theorem findEntry_isSome {key : K} {entries : List (K × V)} :
    (findEntry key entries).isSome ↔ key ∈ entries.map Prod.fst := by
  induction entries with
  | nil => simp [findEntry]
  | cons entry rest inductionHypothesis =>
    unfold findEntry
    split_ifs with same
    · simp [same]
    · simp [inductionHypothesis, Ne.symm same]

/-- A key below every listed key is not found. -/
theorem findEntry_of_lt {key : K} {entries : List (K × V)}
    (below : ∀ other ∈ entries.map Prod.fst, key < other) : findEntry key entries = none := by
  cases lookup : findEntry key entries with
  | none => rfl
  | some value =>
    have listed : key ∈ entries.map Prod.fst := findEntry_isSome.mp (by rw [lookup]; rfl)
    exact absurd (below key listed) (lt_irrefl key)

/-- A key is found exactly when it is among the keys. -/
theorem find_isSome_iff (map : OrderedMap K V) (key : K) :
    (map.find key).isSome ↔ key ∈ map.keys := findEntry_isSome

/-- Nothing is found in the empty map. -/
@[simp] theorem find_empty (key : K) : (empty : OrderedMap K V).find key = none := rfl

@[simp] theorem size_empty : (empty : OrderedMap K V).size = 0 := rfl

/-- The map's keys exceed a key below its first one. -/
theorem lt_of_lt_head {key : K} {entry : K × V} {rest : List (K × V)}
    (sorted : ((entry :: rest).map Prod.fst).Sorted (· < ·)) (before : key < entry.1) :
    ∀ other ∈ (entry :: rest).map Prod.fst, key < other := by
  rw [List.map_cons, List.sorted_cons] at sorted
  intro other member
  rw [List.map_cons, List.mem_cons] at member
  rcases member with rfl | later
  · exact before
  · exact before.trans (sorted.1 _ later)

/-- Insertion into a list of entries, read through `findEntry`. -/
theorem findEntry_insertEntry (key key' : K) (value : V) {entries : List (K × V)}
    (sorted : (entries.map Prod.fst).Sorted (· < ·)) :
    findEntry key' (insertEntry key value entries) =
      if key' = key then some ((findEntry key entries).getD value) else findEntry key' entries := by
  induction entries with
  | nil =>
    by_cases same : key' = key
    · subst same; simp [insertEntry, findEntry]
    · simp [insertEntry, findEntry, same, Ne.symm same]
  | cons entry rest inductionHypothesis =>
    by_cases before : key < entry.1
    · have absent := findEntry_of_lt (lt_of_lt_head sorted before) (V := V)
      rw [insertEntry, if_pos before, findEntry]
      by_cases same : key' = key
      · subst same; simp [absent]
      · simp [Ne.symm same, same]
    rw [List.map_cons, List.sorted_cons] at sorted
    by_cases present : key = entry.1
    · rw [insertEntry, if_neg before, if_pos present]
      by_cases same : key' = key
      · subst same; simp [findEntry, present]
      · simp [same]
    · rw [insertEntry, if_neg before, if_neg present]
      simp only [findEntry, inductionHypothesis sorted.2]
      by_cases same : key' = key
      · subst same; simp [Ne.symm present]
      · simp [same]

/-- Insertion into a list of entries grows it exactly when the key was absent. -/
theorem length_insertEntry (key : K) (value : V) {entries : List (K × V)}
    (sorted : (entries.map Prod.fst).Sorted (· < ·)) :
    (insertEntry key value entries).length =
      if (findEntry key entries).isSome then entries.length else entries.length + 1 := by
  induction entries with
  | nil => simp [insertEntry, findEntry]
  | cons entry rest inductionHypothesis =>
    by_cases before : key < entry.1
    · have absent := findEntry_of_lt (lt_of_lt_head sorted before) (V := V)
      simp [insertEntry, before, absent]
    rw [List.map_cons, List.sorted_cons] at sorted
    by_cases present : key = entry.1
    · simp [insertEntry, before, present, findEntry]
    · simp only [insertEntry, if_neg before, if_neg present, List.length_cons,
        inductionHypothesis sorted.2, findEntry, if_neg (Ne.symm present)]
      split_ifs <;> rfl

/-- Inserting a present key leaves the entries as they were. -/
theorem insertEntry_of_isSome (key : K) (value : V) {entries : List (K × V)}
    (sorted : (entries.map Prod.fst).Sorted (· < ·)) (present : (findEntry key entries).isSome) :
    insertEntry key value entries = entries := by
  induction entries with
  | nil => simp [findEntry] at present
  | cons entry rest inductionHypothesis =>
    rw [List.map_cons, List.sorted_cons] at sorted
    unfold insertEntry
    split_ifs with before same
    · have absent : findEntry key (entry :: rest) = none := findEntry_of_lt fun other member => by
        rw [List.map_cons, List.mem_cons] at member
        rcases member with rfl | later
        · exact before
        · exact before.trans (sorted.1 other later)
      rw [absent] at present
      cases present
    · rfl
    · have later : (findEntry key rest).isSome := by
        simpa [findEntry, Ne.symm same] using present
      rw [inductionHypothesis sorted.2 later]

/-- A map with a key is not empty. -/
theorem size_pos_of_isSome {map : OrderedMap K V} {key : K} (present : (map.find key).isSome) :
    0 < map.size := by
  have listed := (find_isSome_iff map key).mp present
  unfold keys at listed
  unfold size
  cases entries : map.entries with
  | nil => rw [entries] at listed; cases listed
  | cons => simp

/-- `insert` of a present key is a no-op. -/
theorem insert_of_isSome {map : OrderedMap K V} {key : K} (value : V)
    (present : (map.find key).isSome) : map.insert key value = map := by
  obtain ⟨entries, sorted⟩ := map
  simp only [insert, mk.injEq]
  exact insertEntry_of_isSome key value sorted present

/-- `insert` adds the key with the given value only when it is absent. -/
theorem find_insert (map : OrderedMap K V) (key key' : K) (value : V) :
    (map.insert key value).find key' =
      if key' = key then some ((map.find key).getD value) else map.find key' :=
  findEntry_insertEntry key key' value map.sorted

/-- `insert` never overwrites: an entry after it was there before, or is the new one. -/
theorem find_of_find_insert {map : OrderedMap K V} {key key' : K} {value value' : V}
    (found : (map.insert key value).find key' = some value') :
    map.find key' = some value' ∨ (key' = key ∧ map.find key = none ∧ value' = value) := by
  rw [find_insert] at found
  split_ifs at found with same
  · subst same
    cases present : map.find key' with
    | none =>
      rw [present] at found
      exact .inr ⟨rfl, rfl, (Option.some.inj found).symm⟩
    | some stored =>
      rw [present] at found
      exact .inl found
  · exact .inl found

/-- `insert` grows the map by one exactly when the key was absent. -/
theorem size_insert (map : OrderedMap K V) (key : K) (value : V) :
    (map.insert key value).size = if (map.find key).isSome then map.size else map.size + 1 :=
  length_insertEntry key value map.sorted

theorem size_insert_of_absent {map : OrderedMap K V} {key : K} (value : V)
    (absent : map.find key = none) : (map.insert key value).size = map.size + 1 := by
  rw [size_insert, absent]
  rfl

/-- Filtering a key out of a list of entries, read through `findEntry`. -/
theorem findEntry_filter (key key' : K) (entries : List (K × V)) :
    findEntry key' (entries.filter fun entry => entry.1 ≠ key) =
      if key' = key then none else findEntry key' entries := by
  induction entries with
  | nil => simp [findEntry]
  | cons entry rest inductionHypothesis =>
    rw [List.filter_cons]
    by_cases same : entry.1 = key
    · rw [if_neg (by simpa using same), inductionHypothesis]
      by_cases target : key' = key
      · simp [target]
      · simp [findEntry, target, same, Ne.symm target]
    · rw [if_pos (by simpa using same), findEntry, findEntry, inductionHypothesis]
      by_cases target : key' = key
      · subst target; simp [same]
      · simp [target]

/-- `erase` removes the key and nothing else. -/
theorem find_erase (map : OrderedMap K V) (key key' : K) :
    (map.erase key).find key' = if key' = key then none else map.find key' :=
  findEntry_filter key key' map.entries

/-- `erase` never grows the map. -/
theorem size_erase_le (map : OrderedMap K V) (key : K) : (map.erase key).size ≤ map.size :=
  List.length_filter_le _ _

/-- `begin()` is the head entry, whose key is below every later key. -/
theorem begin_cons {map : OrderedMap K V} {key : K} {value : V}
    (atBegin : map.begin = some (key, value)) :
    ∃ rest, map.entries = (key, value) :: rest ∧ ∀ other ∈ rest.map Prod.fst, key < other := by
  have sorted := map.sorted
  unfold begin at atBegin
  cases listed : map.entries with
  | nil => rw [listed] at atBegin; cases atBegin
  | cons entry rest =>
    rw [listed, List.head?_cons, Option.some.injEq] at atBegin
    subst atBegin
    rw [listed, List.map_cons, List.sorted_cons] at sorted
    exact ⟨rest, rfl, sorted.1⟩

/-- `begin()` is a stored entry. -/
theorem find_begin {map : OrderedMap K V} {key : K} {value : V}
    (atBegin : map.begin = some (key, value)) : map.find key = some value := by
  obtain ⟨rest, listed, -⟩ := begin_cons atBegin
  simp [find, listed, findEntry]

/-- `begin()` holds the smallest key. -/
theorem begin_le {map : OrderedMap K V} {key key' : K} {value : V}
    (atBegin : map.begin = some (key, value)) (present : (map.find key').isSome) :
    key ≤ key' := by
  obtain ⟨rest, listed, above⟩ := begin_cons atBegin
  have member := (find_isSome_iff map key').mp present
  simp only [keys, listed, List.map_cons, List.mem_cons] at member
  rcases member with same | later
  · exact le_of_eq same.symm
  · exact (above _ later).le

/-- A map has a `begin()` exactly when it is not empty. -/
theorem begin_isSome (map : OrderedMap K V) : map.begin.isSome ↔ 0 < map.size := by
  unfold begin size
  cases map.entries <;> simp

/-- `erase(begin())` removes the smallest key and nothing else. -/
theorem find_eraseBegin {map : OrderedMap K V} {key : K} {value : V}
    (atBegin : map.begin = some (key, value)) (key' : K) :
    map.eraseBegin.find key' = if key' = key then none else map.find key' := by
  obtain ⟨rest, listed, above⟩ := begin_cons atBegin
  simp only [eraseBegin, find, listed, List.tail_cons, findEntry]
  by_cases same : key' = key
  · subst same
    simp [findEntry_of_lt above]
  · simp [same, Ne.symm same]

/-- `erase(begin())` keeps every entry it does not remove. -/
theorem find_of_find_eraseBegin {map : OrderedMap K V} {key : K} {value : V}
    (found : map.eraseBegin.find key = some value) : map.find key = some value := by
  cases atBegin : map.begin with
  | none =>
    have empty : map.entries = [] := List.head?_eq_none_iff.mp atBegin
    simp [eraseBegin, find, empty, findEntry] at found
  | some entry =>
    rw [find_eraseBegin atBegin] at found
    split_ifs at found
    exact found

/-- `erase(begin())` shrinks the map by one. -/
theorem size_eraseBegin (map : OrderedMap K V) : map.eraseBegin.size = map.size - 1 := by
  simp [eraseBegin, size]

/-- Updating the value under a key in a list of entries, read through `findEntry`. -/
theorem findEntry_map_update (key key' : K) (update : V → V) (entries : List (K × V)) :
    findEntry key' (entries.map fun entry =>
        if entry.1 = key then (entry.1, update entry.2) else entry) =
      if key' = key then (findEntry key entries).map update else findEntry key' entries := by
  induction entries with
  | nil => simp [findEntry]
  | cons entry rest inductionHypothesis =>
    simp only [List.map_cons, findEntry, inductionHypothesis]
    by_cases same : entry.1 = key <;> by_cases target : key' = key
    · subst target; simp [same]
    · simp [same, target, Ne.symm target]
    · subst target; simp [same]
    · simp [same, target]

/-- Updating the value found changes that value only. -/
theorem find_modify (map : OrderedMap K V) (key key' : K) (update : V → V) :
    (map.modify key update).find key' =
      if key' = key then (map.find key).map update else map.find key' :=
  findEntry_map_update key key' update map.entries

/-- Updating a value keeps the size. -/
theorem size_modify (map : OrderedMap K V) (key : K) (update : V → V) :
    (map.modify key update).size = map.size := by
  simp [modify, size]

/-- A value found under a key is stored with it. -/
theorem mem_of_findEntry {key : K} {value : V} {entries : List (K × V)}
    (found : findEntry key entries = some value) : (key, value) ∈ entries := by
  induction entries with
  | nil => cases found
  | cons entry rest inductionHypothesis =>
    unfold findEntry at found
    split_ifs at found with same
    · cases found
      rw [← same]
      exact List.mem_cons_self _ _
    · exact List.mem_cons_of_mem _ (inductionHypothesis found)

section Counting

variable (test : V → Bool)

@[simp] theorem countValues_empty : (empty : OrderedMap K V).countValues test = 0 := rfl

/-- Insertion into a list of entries adds at most the inserted value. -/
theorem countP_insertEntry_le (key : K) (value : V) (entries : List (K × V)) :
    (insertEntry key value entries).countP (fun entry => test entry.2) ≤
      entries.countP (fun entry => test entry.2) + if test value then 1 else 0 := by
  induction entries with
  | nil => simp only [insertEntry, List.countP_nil, List.countP_singleton, Nat.zero_add, le_refl]
  | cons entry rest inductionHypothesis =>
    by_cases before : key < entry.1
    · simp only [insertEntry, before, if_true, List.countP_cons]
      omega
    by_cases same : key = entry.1
    · rw [insertEntry, if_neg before, if_pos same]
      omega
    · simp only [insertEntry, before, same, if_false, List.countP_cons]
      omega

/-- `insert` adds at most the inserted value. -/
theorem countValues_insert_le (map : OrderedMap K V) (key : K) (value : V) :
    (map.insert key value).countValues test ≤ map.countValues test + if test value then 1 else 0 :=
  countP_insertEntry_le test key value map.entries

/-- `erase` adds no value. -/
theorem countValues_erase_le (map : OrderedMap K V) (key : K) :
    (map.erase key).countValues test ≤ map.countValues test :=
  (List.filter_sublist _).countP_le _

/-- `erase(begin())` adds no value. -/
theorem countValues_eraseBegin_le (map : OrderedMap K V) :
    map.eraseBegin.countValues test ≤ map.countValues test :=
  (List.tail_sublist _).countP_le _

/-- Erasing a key removes the value found under it. -/
theorem countValues_erase_found {map : OrderedMap K V} {key : K} {value : V}
    (found : map.find key = some value) (passes : test value) :
    (map.erase key).countValues test + 1 ≤ map.countValues test := by
  have removed : 0 < (map.entries.filter fun entry => !decide (entry.1 ≠ key)).countP
      fun entry => test entry.2 :=
    List.countP_pos_iff.mpr ⟨(key, value), List.mem_filter.mpr ⟨mem_of_findEntry found, by simp⟩,
      passes⟩
  unfold countValues erase
  dsimp only
  rw [List.countP_eq_countP_filter_add map.entries _ fun entry => decide (entry.1 ≠ key)]
  omega

end Counting

end Lemmas

end OrderedMap

end CastTelemetry
