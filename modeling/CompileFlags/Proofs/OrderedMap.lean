import CompileFlags.OrderedMap
import Mathlib.Data.List.Basic

/-!
# Ordered maps

What a map gives for a key is what its first entry with that key holds; so a map that is put together
from parts gives what the first part gives that has the key. Where no key stands twice, an entry is
found whenever it is there (`get?_eq_some_iff`).

Writing to a key changes its value alone (`get?_put`), and no key comes to stand twice (`nodup_put`,
`nodup_putAll`). Entries that are all different are written as they stand (`putAll_of_nodup`).
-/

namespace CompileFlags.OrderedMap

variable {κ ν α : Type} [BEq κ]

/-- The earlier of two parts decides. -/
lemma get?_append (key : κ) (earlier later : List (κ × ν)) :
    get? key (earlier ++ later) = (get? key earlier).or (get? key later) := by
  induction earlier with
  | nil => rfl
  | cons entry earlier ih =>
    rw [List.cons_append, get?, get?]
    split
    · rfl
    · exact ih

/-- A key is present exactly if it has a value. -/
lemma contains_eq_isSome_get? (key : κ) (entries : List (κ × ν)) :
    contains key entries = (get? key entries).isSome := by
  induction entries with
  | nil => rfl
  | cons entry entries ih =>
    rw [contains, List.any_cons, get?]
    split
    · rename_i same
      rw [same]
      rfl
    · rename_i differs
      rw [Bool.not_eq_true] at differs
      rw [differs, Bool.false_or]
      exact ih

variable [LawfulBEq κ]

/-- The first of some things with the key decides. -/
lemma get?_map [DecidableEq κ] (key : κ) (f : α → κ) (g : α → ν) (things : List α) :
    get? key (things.map fun thing => (f thing, g thing)) =
      (things.find? (f · = key)).map g := by
  induction things with
  | nil => rfl
  | cons thing things ih =>
    rw [List.map_cons, get?, List.find?_cons, ih]
    by_cases h : f thing = key
    · simp [h]
    · simp [h]

/-- Keys with one value have it. -/
lemma get?_map_const [DecidableEq κ] (key : κ) (keys : List κ) (value : ν) :
    get? key (keys.map (·, value)) = if key ∈ keys then some value else none := by
  induction keys with
  | nil => rfl
  | cons other keys ih =>
    rw [List.map_cons, get?, ih]
    by_cases h : other = key
    · simp [h]
    · simp [h, Ne.symm h]

/-- Of things with many keys each, the first one with the key decides. -/
lemma get?_flatMap [DecidableEq κ] (key : κ) (keys : α → List κ) (value : α → ν) (things : List α) :
    get? key (things.flatMap fun thing => (keys thing).map (·, value thing)) =
      (things.find? (key ∈ keys ·)).map value := by
  induction things with
  | nil => rfl
  | cons thing things ih =>
    rw [List.flatMap_cons, get?_append, get?_map_const, ih, List.find?_cons]
    by_cases h : key ∈ keys thing
    · simp [h]
    · simp [h]

/-- What is found is there. -/
lemma mem_of_get? {key : κ} {value : ν} {entries : List (κ × ν)}
    (found : get? key entries = some value) : (key, value) ∈ entries := by
  induction entries with
  | nil => exact absurd found (Option.some_ne_none value).symm
  | cons entry entries ih =>
    rw [get?] at found
    split at found
    · rename_i same
      obtain ⟨⟩ := found
      rw [← eq_of_beq same]
      exact List.mem_cons_self
    · exact List.mem_cons_of_mem _ (ih found)

/-- A key is present exactly if some entry has it. -/
lemma contains_iff {key : κ} {entries : List (κ × ν)} :
    contains key entries = true ↔ key ∈ entries.map Prod.fst := by
  rw [contains, List.any_eq_true, List.mem_map]
  simp only [beq_iff_eq]

/-- Where no key stands twice, what is there is found. -/
lemma get?_eq_some_iff {key : κ} {value : ν} {entries : List (κ × ν)}
    (distinct : (entries.map Prod.fst).Nodup) :
    get? key entries = some value ↔ (key, value) ∈ entries := by
  constructor
  · exact mem_of_get?
  · intro mem
    induction entries with
    | nil => exact absurd mem List.not_mem_nil
    | cons entry entries ih =>
      rw [List.map_cons, List.nodup_cons] at distinct
      rw [get?]
      cases mem with
      | head => rw [if_pos (beq_self_eq_true key)]
      | tail _ mem =>
        rw [if_neg, ih distinct.2 mem]
        intro same
        exact distinct.1 (eq_of_beq same ▸ List.mem_map_of_mem mem)

/-- The keys after a write: the same, or a new one at the end. -/
lemma map_fst_put [DecidableEq κ] (key : κ) (value : ν) (entries : List (κ × ν)) :
    (put key value entries).map Prod.fst =
      if key ∈ entries.map Prod.fst then entries.map Prod.fst
      else entries.map Prod.fst ++ [key] := by
  induction entries with
  | nil => rfl
  | cons entry entries ih =>
    rw [put]
    by_cases h : entry.1 = key
    · simp [h]
    · rw [if_neg (by simpa using h), List.map_cons, ih, List.map_cons]
      simp only [List.mem_cons, Ne.symm h, false_or]
      split
      · rfl
      · rfl

/-- A write gives its key the new value, and leaves the others alone. -/
lemma get?_put [DecidableEq κ] (key other : κ) (value : ν) (entries : List (κ × ν)) :
    get? other (put key value entries) =
      if other = key then some value else get? other entries := by
  induction entries with
  | nil =>
    by_cases h : other = key
    · simp [put, get?, h]
    · simp [put, get?, h, Ne.symm h]
  | cons entry entries ih =>
    by_cases same : entry.1 = key
    · rw [put, if_pos (by simpa using same), get?, get?]
      by_cases h : other = key
      · simp [same, h]
      · simp [same, h, Ne.symm h]
    · rw [put, if_neg (by simpa using same), get?, get?, ih]
      by_cases h : other = key
      · simp [h, same]
      · simp [h]

/-- No key comes to stand twice by a write. -/
lemma nodup_put [DecidableEq κ] {entries : List (κ × ν)} (key : κ) (value : ν)
    (distinct : (entries.map Prod.fst).Nodup) : ((put key value entries).map Prod.fst).Nodup := by
  rw [map_fst_put]
  split
  · exact distinct
  · rename_i new
    rw [List.nodup_append]
    refine ⟨distinct, List.pairwise_singleton _ key, fun a mem b mem' => ?_⟩
    rw [List.mem_singleton.1 mem']
    rintro rfl
    exact new mem

/-- What stands in a map after a write was written or stood there before. -/
lemma mem_put {key : κ} {value : ν} {entries : List (κ × ν)} {entry : κ × ν}
    (mem : entry ∈ put key value entries) : entry = (key, value) ∨ entry ∈ entries := by
  induction entries with
  | nil => exact .inl (List.mem_singleton.1 mem)
  | cons first entries ih =>
    rw [put] at mem
    split at mem
    · rename_i same
      rw [eq_of_beq same] at mem
      exact (List.mem_cons.1 mem).imp_right (List.mem_cons_of_mem first)
    · cases mem with
      | head => exact .inr List.mem_cons_self
      | tail _ mem => exact (ih mem).imp_right (List.mem_cons_of_mem first)

/-- No key comes to stand twice by several writes. -/
lemma nodup_putAll [DecidableEq κ] (entries : List (κ × ν)) {map : List (κ × ν)}
    (distinct : (map.map Prod.fst).Nodup) : ((putAll entries map).map Prod.fst).Nodup := by
  induction entries generalizing map with
  | nil => exact distinct
  | cons entry entries ih => exact ih (nodup_put entry.1 entry.2 distinct)

/-- What stands in a map after several writes was written or stood there before. -/
lemma mem_putAll {entries map : List (κ × ν)} {entry : κ × ν}
    (mem : entry ∈ putAll entries map) : entry ∈ entries ∨ entry ∈ map := by
  induction entries generalizing map with
  | nil => exact .inr mem
  | cons first entries ih =>
    rcases ih mem with mem | mem
    · exact .inl (List.mem_cons_of_mem _ mem)
    · rcases mem_put mem with rfl | mem
      · exact .inl List.mem_cons_self
      · exact .inr mem

/-- A key is written behind entries that do not have it. -/
lemma put_append_of_not_mem {key : κ} {before : List (κ × ν)} (value : ν) (entries : List (κ × ν))
    (new : key ∉ before.map Prod.fst) :
    put key value (before ++ entries) = before ++ put key value entries := by
  induction before with
  | nil => rfl
  | cons entry before ih =>
    rw [List.map_cons, List.mem_cons, not_or] at new
    rw [List.cons_append, put, if_neg (by simpa using Ne.symm new.1), ih new.2, List.cons_append]

/-- Entries that are all different take the places of those with the same keys, if these come first
and in the same order; the others are written behind them. -/
lemma putAll_append_of_isPrefix {before entries map : List (κ × ν)}
    (first : map.map Prod.fst <+: entries.map Prod.fst)
    (distinct : ((before ++ entries).map Prod.fst).Nodup) :
    putAll entries (before ++ map) = before ++ entries := by
  induction entries generalizing before map with
  | nil =>
    rw [List.map_eq_nil_iff.1 (List.prefix_nil.1 first)]
    rfl
  | cons entry entries ih =>
    have new : entry.1 ∉ before.map Prod.fst := by
      intro mem
      rw [List.map_append, List.nodup_append] at distinct
      exact distinct.2.2 _ mem _ List.mem_cons_self rfl
    rw [List.append_cons] at distinct ⊢
    cases map with
    | nil =>
      have none : ([] : List (κ × ν)).map Prod.fst <+: entries.map Prod.fst := List.nil_prefix
      rw [← ih none distinct, putAll, List.foldl_cons, put_append_of_not_mem entry.2 [] new,
        List.append_nil]
      rfl
    | cons old map =>
      obtain ⟨same, first⟩ := List.cons_prefix_cons.1 first
      have step := ih first distinct
      rw [← step, putAll, List.foldl_cons, put_append_of_not_mem entry.2 _ new, put,
        if_pos (by simpa using same), List.append_assoc]
      rw [same]
      rfl

/-- Entries that are all different are written as they stand over those whose keys come first among
theirs. -/
lemma putAll_of_isPrefix {entries map : List (κ × ν)}
    (first : map.map Prod.fst <+: entries.map Prod.fst) (distinct : (entries.map Prod.fst).Nodup) :
    putAll entries map = entries := by
  rw [← List.nil_append entries] at distinct
  exact putAll_append_of_isPrefix first distinct

/-- Entries that are all different are written as they stand. -/
lemma putAll_of_nodup {entries : List (κ × ν)} (distinct : (entries.map Prod.fst).Nodup) :
    putAll entries [] = entries :=
  putAll_of_isPrefix List.nil_prefix distinct

/-- The keys that came first go on doing so. -/
lemma isPrefix_map_fst_putAll [DecidableEq κ] (entries map : List (κ × ν)) :
    map.map Prod.fst <+: (putAll entries map).map Prod.fst := by
  induction entries generalizing map with
  | nil => exact List.prefix_rfl
  | cons entry entries ih =>
    refine .trans ?_ (ih (put entry.1 entry.2 map))
    rw [map_fst_put]
    split
    · exact List.prefix_rfl
    · exact List.prefix_append _ _

/-- The keys after several writes of different keys: the new ones go to the end, in their order. -/
lemma map_fst_putAll [DecidableEq κ] {entries : List (κ × ν)} (map : List (κ × ν))
    (distinct : (entries.map Prod.fst).Nodup) :
    (putAll entries map).map Prod.fst =
      map.map Prod.fst ++ (entries.map Prod.fst).filter (· ∉ map.map Prod.fst) := by
  induction entries generalizing map with
  | nil => exact (List.append_nil _).symm
  | cons entry entries ih =>
    obtain ⟨new, distinct⟩ := List.nodup_cons.1 distinct
    have step : (putAll (entry :: entries) map).map Prod.fst =
        (put entry.1 entry.2 map).map Prod.fst ++
          (entries.map Prod.fst).filter (· ∉ (put entry.1 entry.2 map).map Prod.fst) :=
      ih (put entry.1 entry.2 map) distinct
    rw [step, map_fst_put, List.map_cons]
    by_cases known : entry.1 ∈ map.map Prod.fst
    · rw [if_pos known, List.filter_cons_of_neg (by simpa using known)]
    · rw [if_neg known, List.filter_cons_of_pos (by simpa using known), List.append_assoc]
      refine congrArg (map.map Prod.fst ++ entry.1 :: ·) (List.filter_congr fun key mem => ?_)
      have ne : key ≠ entry.1 := fun e => new (e ▸ mem)
      simp [ne]

/-- The values after several writes of different keys. -/
lemma get?_putAll [DecidableEq κ] {entries : List (κ × ν)} (key : κ) (map : List (κ × ν))
    (distinct : (entries.map Prod.fst).Nodup) :
    get? key (putAll entries map) = (get? key entries).or (get? key map) := by
  induction entries generalizing map with
  | nil => rfl
  | cons entry entries ih =>
    obtain ⟨new, distinct⟩ := List.nodup_cons.1 distinct
    have step : get? key (putAll (entry :: entries) map) =
        (get? key entries).or (get? key (put entry.1 entry.2 map)) :=
      ih (put entry.1 entry.2 map) distinct
    rw [step, get?_put, get?]
    by_cases same : key = entry.1
    · have none : get? key entries = none := by
        rw [← Option.not_isSome_iff_eq_none, ← contains_eq_isSome_get?, contains_iff, same]
        exact new
      rw [none, if_pos same, if_pos (by simpa using same.symm)]
      rfl
    · rw [if_neg same, if_neg (by simpa using Ne.symm same)]

end CompileFlags.OrderedMap
