import CompileFlags.Proofs.DirectoryMap
import Mathlib.Logic.Relation

/-!
# The history of a directory map

A map is filled by calls, in any order and number: some add a single directory, others search the
flags of all known directories. A search may stop half way, where a directory cannot be located; what
it has added by then stays. Whatever is called, the map only grows at its end (`Step.isPrefix`), and no
directory is known twice (`Step.isDistinct`); so this is so of whole histories (`Reaches.isPrefix`,
`Reaches.isDistinct`).

The directories that a search adds have the flags of known ones, so they name no directory that is not
known then: a complete search closes the map (`isClosed_addSearchPaths`), and it changes nothing in a
map that is closed (`IsClosed.addSearchPaths_eq_self`).
-/

namespace CompileFlags.DirectoryMap

variable {env : Env} {m m' : DirectoryMap}

lemma isPrefix_add (m : DirectoryMap) (directory : Text) (flags : Flags) :
    m.entries <+: (m.add directory flags).entries := by
  rw [add]
  split
  · exact List.prefix_rfl
  · exact List.prefix_append m.entries [(directory, flags)]

lemma isPrefix_addAll (m : DirectoryMap) (pairs : List (Text × Flags)) :
    m.entries <+: (m.addAll pairs).entries := by
  induction pairs generalizing m with
  | nil => exact List.prefix_rfl
  | cons pair pairs ih => exact (isPrefix_add m pair.1 pair.2).trans (ih (m.add pair.1 pair.2))

lemma mem_add {directory : Text} {flags : Flags} {entry : Text × Flags}
    (mem : entry ∈ (m.add directory flags).entries) :
    entry ∈ m.entries ∨ entry = (directory, flags) := by
  rw [add] at mem
  split at mem
  · exact .inl mem
  · exact (List.mem_append.1 mem).imp_right List.mem_singleton.1

/-- What stands in a map was there before or has been added. -/
lemma mem_addAll {pairs : List (Text × Flags)} {entry : Text × Flags}
    (mem : entry ∈ (m.addAll pairs).entries) : entry ∈ m.entries ∨ entry ∈ pairs := by
  induction pairs generalizing m with
  | nil => exact .inl mem
  | cons pair pairs ih =>
    cases ih mem with
    | inl mem =>
      cases mem_add mem with
      | inl mem => exact .inl mem
      | inr e =>
        right
        rw [e]
        exact List.mem_cons_self
    | inr mem => exact .inr (List.mem_cons_of_mem pair mem)

lemma addAll_cons (m : DirectoryMap) (pair : Text × Flags) (pairs : List (Text × Flags)) :
    m.addAll (pair :: pairs) = (m.add pair.1 pair.2).addAll pairs := rfl

lemma addAll_of_contains {pairs : List (Text × Flags)}
    (known : ∀ pair ∈ pairs, m.contains pair.1 = true) : m.addAll pairs = m := by
  induction pairs with
  | nil => rfl
  | cons pair pairs ih =>
    have present := known pair List.mem_cons_self
    have step : m.add pair.1 pair.2 = m := by rw [add, if_pos present]
    rw [addAll_cons, step]
    apply ih
    intro other mem
    exact known other (List.mem_cons_of_mem pair mem)

/-- The flags that a directory has are kept by every map that goes on where another ends. -/
lemma get?_of_isPrefix (first : m.entries <+: m'.entries) {directory : Text} {flags : Flags}
    (found : m.get? directory = some flags) : m'.get? directory = some flags := by
  obtain ⟨rest, e⟩ := first
  rw [get?, ← e, OrderedMap.get?_append, ← get?, found]
  rfl

/-- What one call makes of a map. Every call has surroundings of its own, as the current directory may
change in between. -/
inductive Step : DirectoryMap → DirectoryMap → Prop where
  | add (m : DirectoryMap) (directory : Text) (flags : Flags) : Step m (m.add directory flags)
  | search (env : Env) (m : DirectoryMap) : Step m (m.addSearchPaths env)
  /-- A search that stops after some directories. -/
  | brokenOff (env : Env) (m : DirectoryMap) (n : Nat) :
    Step m (m.addAll ((m.searchPairs env).take n))

/-- Whether some calls, one after the other, make one map of another. -/
def Reaches : DirectoryMap → DirectoryMap → Prop := Relation.ReflTransGen Step

lemma Step.isPrefix (step : Step m m') : m.entries <+: m'.entries := by
  cases step with
  | add _ directory flags => exact isPrefix_add m directory flags
  | search env _ =>
    rw [addSearchPaths_eq]
    apply isPrefix_addAll
  | brokenOff env _ n => apply isPrefix_addAll

lemma Step.isDistinct (step : Step m m') (distinct : m.IsDistinct) : m'.IsDistinct := by
  cases step with
  | add _ directory flags => exact distinct.add directory flags
  | search env _ =>
    rw [addSearchPaths_eq]
    apply distinct.addAll
  | brokenOff env _ n => apply distinct.addAll

/-- A whole history keeps the directories from before, in their order, and puts all others behind
them. -/
lemma Reaches.isPrefix (reaches : Reaches m m') : m.entries <+: m'.entries := by
  induction reaches with
  | refl => exact List.prefix_rfl
  | tail _ step ih => exact ih.trans step.isPrefix

lemma Reaches.isDistinct (reaches : Reaches m m') (distinct : m.IsDistinct) : m'.IsDistinct := by
  induction reaches with
  | refl => exact distinct
  | tail _ step ih => exact step.isDistinct ih

/-- Whether every directory that the known flags search is known. -/
def IsClosed (env : Env) (m : DirectoryMap) : Prop :=
  ∀ entry ∈ m.entries, ∀ directory ∈ entry.2.searchDirectories env, m.contains directory = true

lemma mem_searchPairs {pair : Text × Flags} :
    pair ∈ m.searchPairs env ↔
      ∃ entry ∈ m.entries, pair.1 ∈ entry.2.searchDirectories env ∧ pair.2 = entry.2 := by
  rw [searchPairs, List.mem_flatMap]
  refine exists_congr fun entry => and_congr_right fun _ => ?_
  rw [List.mem_map]
  constructor
  · rintro ⟨directory, mem, rfl⟩
    exact ⟨mem, rfl⟩
  · rintro ⟨mem, same⟩
    exact ⟨pair.1, mem, Prod.ext rfl same.symm⟩

/-- A search adds no flags but those that were known. -/
lemma exists_flags_of_mem_addSearchPaths {entry : Text × Flags}
    (mem : entry ∈ (m.addSearchPaths env).entries) : ∃ old ∈ m.entries, old.2 = entry.2 := by
  rw [addSearchPaths_eq] at mem
  cases mem_addAll mem with
  | inl mem => exact ⟨entry, mem, rfl⟩
  | inr mem =>
    obtain ⟨old, mem, _, same⟩ := mem_searchPairs.1 mem
    exact ⟨old, mem, same.symm⟩

/-- The flags that a directory has after a search: its own, or else those of the first directory whose
flags search it. -/
lemma get?_addSearchPaths (env : Env) (m : DirectoryMap) (directory : Text) :
    (m.addSearchPaths env).get? directory =
      (m.get? directory).or
        ((m.entries.find? fun entry => directory ∈ entry.2.searchDirectories env).map Prod.snd) := by
  rw [addSearchPaths_eq, get?_addAll, searchPairs, OrderedMap.get?_flatMap]

/-- A search closes a map. -/
lemma isClosed_addSearchPaths (env : Env) (m : DirectoryMap) :
    (m.addSearchPaths env).IsClosed env := by
  intro entry mem directory searched
  -- an entry may be new, but its flags are old, and what these search has been added
  obtain ⟨old, mem, same⟩ := exists_flags_of_mem_addSearchPaths mem
  rw [contains_eq_isSome_get?, get?_addSearchPaths, Option.isSome_or, Option.isSome_map,
    List.find?_isSome.2 ⟨old, mem, decide_eq_true (same ▸ searched)⟩, Bool.or_true]

/-- A search finds nothing new in a closed map. -/
lemma IsClosed.addSearchPaths_eq_self (closed : m.IsClosed env) : m.addSearchPaths env = m := by
  rw [addSearchPaths_eq]
  apply addAll_of_contains
  intro pair mem
  obtain ⟨entry, mem, searched, _⟩ := mem_searchPairs.1 mem
  exact closed entry mem pair.1 searched

/-- After any history, a map knows no directory twice, and whatever is called later the flags of its
directories and their order stay. A search then makes known every directory that some flags in the
map search, and gives each new one the flags of the first entry that names it; the same search again
changes nothing. -/
theorem stable_of_reaches (reached : Reaches empty m) :
    m.IsDistinct ∧
    (∀ later, Reaches m later →
      m.entries <+: later.entries ∧
        ∀ directory flags, m.get? directory = some flags → later.get? directory = some flags) ∧
    ∀ env,
      (∀ entry ∈ (m.addSearchPaths env).entries,
        ∀ p ∈ SearchPath.directories entry.2.options,
          (m.addSearchPaths env).contains
            (Path.asDirectory (Path.expand env p entry.2.base)) = true) ∧
      (∀ directory, m.contains directory = false →
        (m.addSearchPaths env).get? directory =
          (m.entries.find? fun entry =>
            directory ∈ (SearchPath.directories entry.2.options).map fun p =>
              Path.asDirectory (Path.expand env p entry.2.base)).map Prod.snd) ∧
      (m.addSearchPaths env).addSearchPaths env = m.addSearchPaths env := by
  have none : empty.IsDistinct := List.nodup_nil
  refine ⟨reached.isDistinct none, ?_, ?_⟩
  · intro later reaches
    refine ⟨reaches.isPrefix, ?_⟩
    intro directory flags found
    exact get?_of_isPrefix reaches.isPrefix found
  · intro env
    have closed := isClosed_addSearchPaths env m
    refine ⟨?_, ?_, closed.addSearchPaths_eq_self⟩
    · intro entry mem p named
      exact closed entry mem _ (List.mem_map_of_mem named)
    · intro directory unknown
      rw [contains_eq_isSome_get?, Option.isSome_eq_false_iff, Option.isNone_iff_eq_none] at unknown
      rw [get?_addSearchPaths, unknown, Option.none_or]
      rfl

/-- Two directories whose flags both search a third one: a search gives it the flags of the first, and
what is added for it later counts for nothing. -/
theorem stable_of_shared_search_path :
    let env : Env := { home := "/", cwd := ⟨[], 0⟩, clock := 0 }
    let a : Flags := ⟨["-I../inc"], "/p/a"⟩
    let b : Flags := ⟨["-isystem", "/p/inc"], "/p/b"⟩
    let m := (empty.add "/p/a/" a).add "/p/b/" b
    let later := (m.addSearchPaths env).add "/p/inc/" b
    Reaches empty m ∧ Reaches m later ∧ m.contains "/p/inc/" = false ∧
      (m.addSearchPaths env).get? "/p/inc/" = some a ∧
      m.get? "/p/b/" = some b ∧ later.get? "/p/b/" = some b ∧
      (m.addSearchPaths env).addSearchPaths env = m.addSearchPaths env := by
  intro env a b m later
  have added : Reaches empty m := (Relation.ReflTransGen.single (.add _ _ _)).tail (.add _ _ _)
  have searched : Reaches m later := (Relation.ReflTransGen.single (.search env _)).tail (.add _ _ _)
  have unknown : m.contains "/p/inc/" = false := by decide +kernel
  have old : m.get? "/p/b/" = some b := by decide +kernel
  obtain ⟨_, keeps, searches⟩ := stable_of_reaches added
  obtain ⟨_, first, same⟩ := searches env
  refine ⟨added, searched, unknown, ?_, old, (keeps later searched).2 _ _ old, same⟩
  rw [first _ unknown]
  decide +kernel

end CompileFlags.DirectoryMap
