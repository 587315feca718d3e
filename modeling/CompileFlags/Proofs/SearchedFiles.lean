import CompileFlags.Proofs.FileSystem.Appending
import CompileFlags.Proofs.FileSystem.Tidy
import CompileFlags.Proofs.HardFaults

/-!
# What a search looks at

A search looks at the database of the nearest registered project, at the candidates in the directories
upwards down to the first that is a file, and reads what it has found (`SettingValues.LooksAt`). What is
appended to any other file makes no difference to it (`SettingValues.find_of_appends`). A database that
is found is a file, also under the tidy path that is told (`isFile_of_locateDatabase`).
-/

namespace CompileFlags

/-- Two tests find the same if they agree down to what the first of them finds. -/
lemma find?_congr {α : Type} {f g : α → Bool} {list : List α}
    (same : ∀ before a after, list = before ++ a :: after → (∀ b ∈ before, f b = false) → g a = f a) :
    list.find? g = list.find? f := by
  induction list with
  | nil => rfl
  | cons a list ih =>
    have head : g a = f a := same [] a list rfl (by simp)
    rw [List.find?_cons, List.find?_cons, head]
    cases found : f a with
    | true => rfl
    | false =>
      refine ih fun before b after list_eq earlier => ?_
      exact same (a :: before) b after (congrArg (a :: ·) list_eq)
        (List.forall_mem_cons.2 ⟨found, earlier⟩)

variable {env : Env} {fs fs' : FileSystem} {path place p database : Text} {places : Set Location}

/-- The database of a registration that is found is a file. -/
lemma Registration.isFile_of_file? {r : Registration} (found : r.file? env fs = .ok (some p)) :
    fs.isFile env.cwd p = true := by
  rw [file?] at found
  split at found
  · exact absurd found (by simp)
  · split at found
    · exact absurd found (by simp)
    · exact absurd found (by simp)
    · rename_i content _ probed
      obtain ⟨rfl⟩ := found
      exact FileSystem.isFile_iff.2 ⟨content, FileSystem.status_of_probe probed⟩
    · exact absurd found (by simp)
  · exact absurd found (by simp)

/-- A registered database that is found is a file. -/
lemma isFile_of_registeredFor {file : Option Text} {projects : List (Scalar × Value)}
    (found : registeredFor env fs file projects = .ok (some p)) : fs.isFile env.cwd p = true := by
  unfold registeredFor at found
  split at found
  · exact absurd found (by simp)
  split at found
  · split at found
    · exact absurd found (by simp)
    · rw [registeredDatabase] at found
      split at found
      · exact absurd found (by simp)
      · split at found
        · exact absurd found (by simp)
        · exact Registration.isFile_of_file? found
  · exact absurd found (by simp)

/-- A database that is found upwards is a file. -/
lemma isFile_of_findDatabase? {name : Text} (found : findDatabase? env fs place name = some p) :
    fs.isFile env.cwd p = true := by
  rw [findDatabase?, Option.map_eq_some_iff] at found
  obtain ⟨candidate, chosen, rfl⟩ := found
  have isFile := List.find?_some chosen
  rw [FileSystem.isFile, FileSystem.status_tidy isFile, ← FileSystem.isFile]
  exact isFile

/-- A database that is found is a file. -/
lemma isFile_of_locateDatabase {file start : Option Text} {projects : List (Scalar × Value)}
    {name : Value} (located : locateDatabase env fs file start projects name = .ok (some p)) :
    fs.isFile env.cwd p = true := by
  unfold locateDatabase at located
  split at located
  · exact absurd located (by simp)
  · rename_i registered
    obtain ⟨⟩ := located
    exact isFile_of_registeredFor registered
  · split at located
    · split at located
      · exact isFile_of_findDatabase? (Except.ok.inj located)
      · exact absurd located (by simp)
    · exact absurd located (by simp)

namespace SettingValues

variable {values : SettingValues}

/-- The files that are looked at for an answer. -/
inductive LooksAt (env : Env) (values : SettingValues) (fs : FileSystem) (path place : Text) :
    Text → Prop
  /-- The database of the nearest registered project. -/
  | registered {registrations : List Registration} {r : Registration} {database : Text}
      (read : values.registered.mapM (Registration.ofEntry env) = .ok registrations)
      (nearest : Path.nearest? Registration.root (Path.absolute env path) registrations = some r)
      (named : r.database = .text database) :
      LooksAt env values fs path place (r.path env database)
  /-- If that gives none, what has the name of a database in a directory upwards, unless one is found
  before. -/
  | above {name candidate : Text} {before after : List Text}
      (unregistered : registeredFor env fs (some path) values.registered = .ok none)
      (locatable : Path.isLocatable env (searchStart (some path) (some place)) = true)
      (named : values.get "database_name" = .text name)
      (candidates : (Path.ancestors (searchDirectory env fs
        (searchStart (some path) (some place)))).map (Path.join · name) =
          before ++ candidate :: after)
      (earlier : ∀ other ∈ before, fs.isFile env.cwd other = false) :
      LooksAt env values fs path place candidate
  /-- The database that is found. -/
  | found {database : Text}
      (located : locateDatabase env fs (some path) (some place) values.registered
        (values.get "database_name") = .ok (some database)) :
      LooksAt env values fs path place database

/-- Whether a search looks at nothing that is at some places. -/
def IsApart (env : Env) (values : SettingValues) (fs : FileSystem) (path place : Text)
    (places : Set Location) : Prop :=
  ∀ p, values.LooksAt env fs path place p → ∀ loc ∈ places, ¬ fs.LeadsTo env.cwd p .content loc

section Appending

variable (appends : FileSystem.Appends places fs fs')

include appends

/-- The same is registered. -/
lemma registeredFor_of_appends (apart : values.IsApart env fs path place places) :
    registeredFor env fs' (some path) values.registered =
      registeredFor env fs (some path) values.registered := by
  have read {registrations : List Registration} {r : Registration}
      (read : values.registered.mapM (Registration.ofEntry env) = .ok registrations)
      (nearest : Path.nearest? Registration.root (Path.absolute env path) registrations = some r) :
      r.file? env fs' = r.file? env fs := by
    unfold Registration.file?
    split
    · rfl
    · rename_i database named
      rw [appends.probe_eq (apart _ (.registered read nearest named))]
    · rfl
  unfold registeredFor
  split
  · rfl
  dsimp only
  split
  · rfl
  · rename_i located
    obtain ⟨_, rfl⟩ := Path.locate_eq_ok_iff.1 located
    unfold registeredDatabase
    split
    · rfl
    · rename_i registrations ofEntries
      split
      · rfl
      · rename_i r nearest
        exact read ofEntries nearest

/-- The search begins in the same directory. -/
lemma searchDirectory_of_appends (start : Text) :
    searchDirectory env fs' start = searchDirectory env fs start := by
  rw [searchDirectory, searchDirectory, appends.isDirectory_eq]

/-- The same database is found. -/
lemma locateDatabase_of_appends (apart : values.IsApart env fs path place places) :
    locateDatabase env fs' (some path) (some place) values.registered
        (values.get "database_name") =
      locateDatabase env fs (some path) (some place) values.registered
        (values.get "database_name") := by
  unfold locateDatabase
  rw [registeredFor_of_appends appends apart]
  split
  · rfl
  · rfl
  rename_i unregistered
  split
  · rename_i locatable
    split
    · rename_i name named
      unfold findDatabase?
      rw [searchDirectory_of_appends appends, find?_congr]
      -- nothing behind the first file is looked at, so nothing there has to be apart
      intro before candidate after candidates earlier
      exact appends.isFile_eq (apart _ (.above unregistered locatable named candidates earlier))
    · rfl
  · rfl

/-- The same is read from the database that is found. -/
lemma load_of_appends (apart : values.IsApart env fs path place places)
    (located : locateDatabase env fs (some path) (some place) values.registered
      (values.get "database_name") = .ok (some database)) :
    Database.load env fs' database = Database.load env fs database := by
  rw [Database.load, Database.load,
    appends.read_eq (apart _ (.found located)) (isFile_of_locateDatabase located)]

/-- The same is found, and the same is to be logged about it. -/
theorem find_of_appends (apart : values.IsApart env fs path place places) :
    values.find env fs' path place = values.find env fs path place := by
  unfold find
  rw [locateDatabase_of_appends appends apart]
  dsimp only
  split
  · rfl
  · rfl
  · rename_i database located
    rw [load_of_appends appends apart located]

end Appending

end SettingValues

end CompileFlags
