import CompileFlags.Proofs.DirectoryMap
import CompileFlags.Proofs.Entry
import Mathlib.Data.Nat.Find

/-!
# The flags of the nearest directory

A file without entries gets the flags of the nearest directory above it. Comparing the texts of
directories comes to the same as walking up from the directory of the file, parent by parent, until
one is met that the database has flags for (`Database.nearest_eq_walk`). What the first entry of a
directory searches for headers is always among the directories known, and a file that lies in such a
directory is given it; what a later entry of the same directory searches is known only if it is
known for another reason (`Database.searched_known_iff`).
-/

namespace CompileFlags

open CompileFlags.Path (asDirectory parent IsNormal)

/-- The file of an entry that is made from a build command is in normal form. -/
lemma Entry.IsMade.isNormal_directory {e : Entry} (made : e.IsMade) : IsNormal e.directory := by
  obtain ⟨env, c, made⟩ := made
  exact (Entry.isWellFormed_of_normalize? made).file_isNormal.isNormal_parent

namespace Database

variable {env : Env} {db : Database} {file : Text}

/-- The names of an absolute path, from the root down. -/
def names (p : Text) : List Text := (Path.Absolute.ofText p).names

/-- A directory that is known and covers a file is met on the way up from the file. -/
lemma exists_parent_iterate_eq (made : ∀ e ∈ db.entries, e.IsMade) (normal : IsNormal file)
    (single : ¬ ("//" : Text) <+: file) {key : Text}
    (known : ((DirectoryMap.ofDatabase env db).get? key).isSome = true)
    (covered : Path.covers key file = true) :
    ∃ n, key = asDirectory (parent^[n + 1] file) := by
  obtain ⟨directory, rfl, directory_eq⟩ := DirectoryMap.exists_of_isSome_get? known
  have normalDirectory : IsNormal directory := by
    cases directory_eq with
    | inl h =>
      obtain ⟨e, mem, rfl⟩ := h
      exact (made e mem).isNormal_directory
    | inr h => exact h
  obtain ⟨a, properA, rfl⟩ := Path.isNormal_iff.1 normalDirectory
  obtain ⟨b, properB, rfl⟩ := Path.isNormal_iff.1 normal
  obtain ⟨n, rfl⟩ := (properA.covers_iff_up properB (properB.doubled_eq_false_iff.2 single)).1 covered
  exact ⟨n, by rw [properB.parent_iterate_text]⟩

/-- The directories on the way up from a file cover it. -/
lemma covers_parent_iterate (normal : IsNormal file) (single : ¬ ("//" : Text) <+: file) (n : Nat) :
    Path.covers (asDirectory (parent^[n + 1] file)) file = true := by
  obtain ⟨b, proper, rfl⟩ := Path.isNormal_iff.1 normal
  rw [proper.parent_iterate_text]
  have properUp := Path.Absolute.isProper_up proper (n + 1)
  exact (properUp.covers_iff_up proper (proper.doubled_eq_false_iff.2 single)).2 ⟨n, rfl⟩

/-- The directories on the way up from a file become no longer. -/
lemma length_parent_iterate_le (normal : IsNormal file) {m n : Nat} (le : m ≤ n) :
    (asDirectory (parent^[n] file)).length ≤ (asDirectory (parent^[m] file)).length := by
  obtain ⟨b, proper, rfl⟩ := Path.isNormal_iff.1 normal
  rw [proper.parent_iterate_text, proper.parent_iterate_text]
  exact (proper.asDirectory_up_isPrefix le).length_le

/-- The map has the flags of the directories on the way up from a file. -/
lemma get?_parent_iterate (normal : IsNormal file) (n : Nat) :
    (DirectoryMap.ofDatabase env db).get? (asDirectory (parent^[n] file)) =
      db.flagsIn? env (parent^[n] file) := by
  obtain ⟨b, proper, rfl⟩ := Path.isNormal_iff.1 normal
  rw [proper.parent_iterate_text]
  exact DirectoryMap.get?_ofDatabase env db (Path.Absolute.isProper_up proper n).isTrimmed_text

/-- A directory is nearest exactly if it is the first on the way up that has flags. -/
lemma nearest?_eq_some_iff (made : ∀ e ∈ db.entries, e.IsMade) (normal : IsNormal file)
    (single : ¬ ("//" : Text) <+: file) {key : Text} {flags : Flags} :
    db.nearest? env file = some (key, flags) ↔
      ∃ n, key = asDirectory (parent^[n + 1] file) ∧
        db.flagsIn? env (parent^[n + 1] file) = some flags ∧
        ∀ m < n, db.flagsIn? env (parent^[m + 1] file) = none := by
  rw [nearest?, DirectoryMap.nearest?_eq_some_iff (DirectoryMap.isDistinct_ofDatabase env db)]
  constructor
  · rintro ⟨found, covered, longest⟩
    have onWay := exists_parent_iterate_eq made normal single (Option.isSome_of_eq_some found) covered
    -- at the root every further step stays where it is, so the first step that leads there is taken
    have key_eq := Nat.find_spec onWay
    refine ⟨Nat.find onWay, key_eq, ?_, ?_⟩
    · rw [← get?_parent_iterate normal, ← key_eq, found]
    · intro m lt
      rw [← get?_parent_iterate normal, ← Option.not_isSome_iff_eq_none]
      intro known
      have coveredBelow := covers_parent_iterate normal single m
      have le := longest _ known coveredBelow
      have ge := length_parent_iterate_le normal (Nat.succ_le_succ lt.le)
      rw [← key_eq] at ge
      exact Nat.find_min onWay lt (Path.eq_of_covers covered coveredBelow (Nat.le_antisymm ge le))
  · rintro ⟨n, rfl, flags_eq, before⟩
    refine ⟨(get?_parent_iterate normal (n + 1)).trans flags_eq,
      covers_parent_iterate normal single n, ?_⟩
    intro other known covered
    obtain ⟨m, rfl⟩ := exists_parent_iterate_eq made normal single known covered
    rw [get?_parent_iterate normal] at known
    have le : n ≤ m := by
      by_contra lt
      rw [before m (Nat.lt_of_not_le lt)] at known
      exact Bool.false_ne_true known
    exact length_parent_iterate_le normal (Nat.succ_le_succ le)

/-- No directory is nearest exactly if none on the way up has flags. -/
lemma nearest?_eq_none_iff (made : ∀ e ∈ db.entries, e.IsMade) (normal : IsNormal file)
    (single : ¬ ("//" : Text) <+: file) :
    db.nearest? env file = none ↔ ∀ n, db.flagsIn? env (parent^[n + 1] file) = none := by
  rw [nearest?, DirectoryMap.nearest?_eq_none_iff]
  constructor
  · intro not n
    rw [← get?_parent_iterate normal, ← Option.not_isSome_iff_eq_none]
    intro known
    exact absurd (covers_parent_iterate normal single n) (by rw [not _ known]; exact Bool.false_ne_true)
  · intro not key known
    by_contra covered
    rw [Bool.not_eq_false] at covered
    obtain ⟨n, rfl⟩ := exists_parent_iterate_eq made normal single known covered
    rw [get?_parent_iterate normal, not n] at known
    exact Bool.false_ne_true known

/-- The names of the nearest directory begin those of the directory of the file. -/
lemma names_isPrefix_of_nearest? (made : ∀ e ∈ db.entries, e.IsMade) (normal : IsNormal file)
    (single : ¬ ("//" : Text) <+: file) {directory : Text} {flags : Flags}
    (normalDirectory : IsNormal directory)
    (nearest : db.nearest? env file = some (asDirectory directory, flags)) :
    names directory <+: names (parent file) := by
  obtain ⟨n, key_eq, _⟩ := (nearest?_eq_some_iff made normal single).1 nearest
  obtain ⟨b, proper, rfl⟩ := Path.isNormal_iff.1 normal
  have properUp := Path.Absolute.isProper_up proper (n + 1)
  rw [proper.parent_iterate_text,
    normalDirectory.isTrimmed.asDirectory_inj properUp.isTrimmed_text] at key_eq
  rw [key_eq, proper.parent_text, names, names, properUp.ofText_text,
    (Path.Absolute.isProper_up proper 1).ofText_text, Nat.add_comm, ← Path.Absolute.up_up]
  exact Path.Absolute.names_up_isPrefix _ n

/-- Where the directories of a database cannot be told, a representative searches what cannot be resolved.
-/
lemma exists_of_nearest_eq_error {fault : Fault} (failed : db.nearest env file = .error fault) :
    ∃ e p, Entry.Represents db.entries e ∧ p ∈ SearchPath.directories e.options ∧
      Path.resolve env p e.base = .error fault := by
  rw [nearest_eq_error_iff, searchFault?, Option.bind_eq_some_iff] at failed
  obtain ⟨e, first, failed⟩ := failed
  obtain ⟨p, mem, failed⟩ := List.exists_of_findSome?_eq_some failed
  have represents : Entry.Represents db.entries e := by
    have holds := List.find?_some first
    simp only [decide_eq_true_eq] at holds
    exact holds.1
  exact ⟨e, p, represents, mem, Path.resolve_eq_error_iff.2 failed⟩

/-- The nearest directory above a file can be told exactly if all that the representatives search can be
resolved; otherwise the fault is about one of these paths. It is then the first directory on the way up
from the file that the database has flags for, and whole names are compared on that way. -/
theorem nearest_eq_walk (env : Env) (made : ∀ e ∈ db.entries, e.IsMade) (normal : IsNormal file)
    (single : ¬ ("//" : Text) <+: file) :
    ((∃ found, db.nearest env file = .ok found) ↔
      ∀ e, Entry.Represents db.entries e → ∀ p ∈ SearchPath.directories e.options,
        ∃ q, Path.resolve env p e.base = .ok q) ∧
    (∀ fault, db.nearest env file = .error fault →
      ∃ e p, Entry.Represents db.entries e ∧ p ∈ SearchPath.directories e.options ∧
        Path.resolve env p e.base = .error fault) ∧
    ∀ found, db.nearest env file = .ok found →
      (∀ key flags, found = some (key, flags) ↔
        ∃ n, key = asDirectory (parent^[n + 1] file) ∧
          db.flagsIn? env (parent^[n + 1] file) = some flags ∧
          ∀ m < n, db.flagsIn? env (parent^[m + 1] file) = none) ∧
      (found = none ↔ ∀ n, db.flagsIn? env (parent^[n + 1] file) = none) ∧
      (∀ directory flags, IsNormal directory → found = some (asDirectory directory, flags) →
        names directory <+: names (parent file)) := by
  refine ⟨?_, fun _ => exists_of_nearest_eq_error, ?_⟩
  · simp only [← searchFault?_eq_none_iff_resolve, nearest_eq_ok_iff, exists_and_left, exists_eq,
      and_true]
  · intro found told
    obtain ⟨_, rfl⟩ := nearest_eq_ok_iff.1 told
    exact ⟨fun _ _ => nearest?_eq_some_iff made normal single, nearest?_eq_none_iff made normal single,
      fun _ _ => names_isPrefix_of_nearest? made normal single⟩

/-- A directory between two whose names begin and continue its own. -/
def siblings : Database where
  path := "db"
  entries := [⟨"/proj/sr/a.c", ["-DA"], "/"⟩, ⟨"/proj/src/b.c", ["-I../inc"], "/proj/src"⟩,
    ⟨"/proj/src2/c.c", ["-DC"], "/"⟩]
  dropped := 0

/-- A file gets the flags of the directory above it, and not of one with a similar name. -/
theorem nearest_siblings :
    let env : Env := { home := "/", cwd := ⟨[], 0⟩, clock := 0 }
    let file : Text := "/proj/src/deep/x.h"
    (∀ e ∈ siblings.entries, e.IsMade) ∧ IsNormal file ∧ ¬ ("//" : Text) <+: file ∧
      siblings.nearest env file = .ok (some (("/proj/src/" : Text), ⟨["-I../inc"], "/proj/src"⟩)) := by
  intro env file
  have made : ∀ e ∈ siblings.entries, e.IsMade := by
    simp only [siblings, List.forall_mem_cons]
    refine ⟨?_, ?_, ?_, fun _ mem => absurd mem List.not_mem_nil⟩
    · exact ⟨env, ⟨some "/", some "proj/sr/a.c", none, some ["cc", "-DA"]⟩, by decide +kernel⟩
    · exact ⟨env, ⟨some "/proj/src", some "b.c", some "cc -c -I../inc b.c", none⟩, by decide +kernel⟩
    · exact ⟨env, ⟨some "/", some "/proj/src2/c.c", none, some ["cc", "-DC"]⟩, by decide +kernel⟩
  have normal : IsNormal file := ⟨by decide, by decide +kernel⟩
  have single : ¬ ("//" : Text) <+: file := by decide
  obtain ⟨exists_iff, _, walk⟩ := nearest_eq_walk env made normal single
  have resolved : siblings.searchFault? env = none := by decide +kernel
  obtain ⟨found, told⟩ := exists_iff.2 (searchFault?_eq_none_iff_resolve.1 resolved)
  refine ⟨made, normal, single, told.trans (congrArg Except.ok ?_)⟩
  refine ((walk found told).1 _ _).2 ⟨1, ?_⟩
  decide +kernel

/-- A user that cannot be looked up in one option leaves every file without flags, even those beside the
file that the option is for. -/
theorem nearest_unaskable :
    let env : Env := { home := "/", cwd := ⟨[], 0⟩, clock := 0 }
    let e : Entry := ⟨"/p/a.c", ["-I~\x00x"], "/p"⟩
    let db : Database := ⟨"db", [e], 0⟩
    e.IsMade ∧ IsNormal "/p/h.h" ∧ ¬ ("//" : Text) <+: ("/p/h.h" : Text) ∧
      db.flagsIn? env (parent "/p/h.h") = some e.flags ∧
      db.nearest env "/p/h.h" = .error (.access .nullCharacter) := by
  intro env e db
  refine ⟨⟨env, ⟨some "/p", some "a.c", none, some ["cc", "-I~\x00x"]⟩, by decide +kernel⟩,
    ⟨by decide, by decide +kernel⟩, by decide, ?_⟩
  decide +kernel

/-- A directory is known exactly if it is that of some representative, or one searches it. -/
lemma contains_ofDatabase_iff (env : Env) (db : Database) {directory : Text}
    (trimmed : Path.IsTrimmed directory) :
    (DirectoryMap.ofDatabase env db).contains (asDirectory directory) = true ↔
      ∃ e, Entry.Represents db.entries e ∧
        (e.directory = directory ∨ directory ∈ e.searched env) := by
  rw [DirectoryMap.contains_eq_isSome_get?, DirectoryMap.get?_ofDatabase env db trimmed, flagsIn?,
    Option.isSome_map, Option.isSome_or, Bool.or_eq_true, List.find?_isSome]
  constructor
  · intro known
    cases known with
    | inl known =>
      obtain ⟨e, first⟩ := Option.isSome_iff_exists.1 known
      have directory_eq : e.directory = directory := by simpa using List.find?_some first
      have represents : Entry.Represents db.entries e := by
        rw [Entry.Represents, directory_eq]
        exact first
      exact ⟨e, represents, .inl directory_eq⟩
    | inr known =>
      obtain ⟨e, _, h⟩ := known
      have h := of_decide_eq_true h
      exact ⟨e, h.1, .inr h.2⟩
  · rintro ⟨e, represents, rfl | searched⟩
    · exact .inl (Option.isSome_of_eq_some represents)
    · exact .inr ⟨e, represents.mem, decide_eq_true ⟨represents, searched⟩⟩

/-- A known directory is the nearest one to the files that lie in it. -/
lemma nearest?_of_contains (normal : IsNormal file)
    (known : (DirectoryMap.ofDatabase env db).contains (asDirectory (parent file)) = true) :
    ∃ flags, db.flagsIn? env (parent file) = some flags ∧
      db.nearest? env file = some (asDirectory (parent file), flags) := by
  have get?_eq := DirectoryMap.get?_ofDatabase env db (Path.isTrimmed_parent file)
  rw [DirectoryMap.contains_eq_isSome_get?, get?_eq] at known
  obtain ⟨flags, flags_eq⟩ := Option.isSome_iff_exists.1 known
  refine ⟨flags, flags_eq, ?_⟩
  rw [nearest?, DirectoryMap.nearest?_eq_some_iff (DirectoryMap.isDistinct_ofDatabase env db)]
  refine ⟨get?_eq.trans flags_eq, normal.covers_parent, ?_⟩
  intro other known covered
  obtain ⟨above, rfl, _⟩ := DirectoryMap.exists_of_isSome_get? known
  exact normal.length_le_of_covers covered

/-- There is a map of the directories exactly if all that the representatives search can be resolved. A
directory that an entry searches is known then exactly if it is the directory of a representative or a
representative searches it; so it is if the entry represents its directory itself. A file that lies in a
known directory is given that directory. -/
theorem searched_known_iff (env : Env) (db : Database) :
    ((∃ m, DirectoryMap.build env db = .ok m) ↔
      ∀ e, Entry.Represents db.entries e → ∀ p ∈ SearchPath.directories e.options,
        ∃ q, Path.resolve env p e.base = .ok q) ∧
    ∀ m, DirectoryMap.build env db = .ok m → ∀ (e : Entry) (p directory : Text),
      p ∈ SearchPath.directories e.options → Path.resolve env p e.base = .ok directory →
        let known := m.contains (asDirectory directory)
        (Entry.Represents db.entries e → known = true) ∧
        (known = true ↔ ∃ r, Entry.Represents db.entries r ∧
          (r.directory = directory ∨ directory ∈ r.searched env)) ∧
        (known = true → ∀ file, IsNormal file → parent file = directory →
          ∃ flags, db.flagsIn? env directory = some flags ∧
            db.nearest env file = .ok (some (asDirectory directory, flags))) := by
  constructor
  · simp only [← searchFault?_eq_none_iff_resolve, build_eq_ok_iff, exists_and_left,
      exists_eq, and_true]
  · intro m built e p directory named resolved
    obtain ⟨none, rfl⟩ := build_eq_ok_iff.1 built
    obtain ⟨_, rfl⟩ := Path.resolve_eq_ok_iff.1 resolved
    have known_iff := contains_ofDatabase_iff env db (Path.isNormal_expand env p e.base).isTrimmed
    refine ⟨?_, known_iff, ?_⟩
    · intro represents
      exact known_iff.2 ⟨e, represents, .inr (List.mem_map_of_mem named)⟩
    · intro isKnown file normal parent_eq
      rw [← parent_eq]
      obtain ⟨flags, flags_eq, nearest⟩ := nearest?_of_contains normal (parent_eq ▸ isKnown)
      exact ⟨flags, flags_eq, nearest_eq_ok_iff.2 ⟨none, nearest.symm⟩⟩

/-- What only a later entry of a directory searches is lost. -/
theorem searched_lost :
    let env : Env := { home := "/", cwd := ⟨[], 0⟩, clock := 0 }
    let later : Entry := ⟨"/p/b.c", ["-I/inc"], "/p"⟩
    let db : Database := ⟨"db", [⟨"/p/a.c", ["-DA"], "/p"⟩, later], 0⟩
    later ∈ db.entries ∧ ("/inc" : Text) ∈ SearchPath.directories later.options ∧
      (DirectoryMap.build env db).map (·.contains (asDirectory (Path.expand env "/inc" later.base))) =
        .ok false ∧
      db.nearest env "/inc/x.h" = .ok none := by
  decide +kernel

/-- What the first entry of a directory searches is known, and given to the files that lie there. -/
theorem searched_known_siblings :
    let env : Env := { home := "/", cwd := ⟨[], 0⟩, clock := 0 }
    let e : Entry := ⟨"/proj/src/b.c", ["-I../inc"], "/proj/src"⟩
    ("../inc" : Text) ∈ SearchPath.directories e.options ∧ IsNormal "/proj/inc/x.h" ∧
      Path.resolve env "../inc" e.base = .ok "/proj/inc" ∧
      ∃ flags, siblings.nearest env "/proj/inc/x.h" =
        .ok (some (asDirectory "/proj/inc", flags)) := by
  intro env e
  have named : ("../inc" : Text) ∈ SearchPath.directories e.options := by decide +kernel
  have resolved : Path.resolve env "../inc" e.base = .ok "/proj/inc" := by decide +kernel
  have represents : Entry.Represents siblings.entries e := by decide +kernel
  have normal : IsNormal "/proj/inc/x.h" := ⟨by decide, by decide +kernel⟩
  have told : siblings.searchFault? env = none := by decide +kernel
  obtain ⟨exists_iff, known_iff⟩ := searched_known_iff env siblings
  obtain ⟨m, built⟩ := exists_iff.2 (searchFault?_eq_none_iff_resolve.1 told)
  obtain ⟨known, _, given⟩ := known_iff m built e "../inc" "/proj/inc" named resolved
  obtain ⟨flags, _, nearest⟩ := given (known represents) "/proj/inc/x.h" normal (by decide +kernel)
  exact ⟨named, normal, resolved, flags, nearest⟩

end Database

end CompileFlags
