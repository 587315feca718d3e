import CompileFlags.Proofs.Settings.Store

/-!
# Settings over many changes

Settings may be changed and loaded anew in any order (`Settings.Operation`). As long as all values are
plain and all writes succeed, the settings in memory are those of the file, in the same order, and
the registered projects are what the same changes make of a map that is kept apart
(`Settings.performAll_refines`). One step keeps this (`Settings.IsKept.perform`), and so does a run
(`Settings.IsKept.performAll`).
-/

namespace CompileFlags

/-- The members of a map that are known by texts. -/
def Value.members : Value → List (Text × Value)
  | .map entries => entries.filterMap fun entry =>
    match entry.1 with
    | .text name => some (name, entry.2)
    | _ => none
  | _ => []

/-- The members that a map is made of. -/
@[simp]
lemma Value.members_object (members : List (Text × Value)) : (object members).members = members := by
  rw [object, Value.members, entriesOf, List.filterMap_map]
  exact List.filterMap_some

/-- What is registered for the roots of projects, in order. -/
abbrev Projects := List (Text × Value)

namespace Projects

variable {projects : Projects} {root : Text}

/-- Registers a database: a root that is present keeps its place, a new one goes last. -/
def insert (projects : Projects) (root : Text) (database : Value) : Projects :=
  if (projects.map Prod.fst).contains root then
    projects.map fun project => if project.1 = root then (root, database) else project
  else projects ++ [(root, database)]

/-- Forgets a root. -/
def delete (projects : Projects) (root : Text) : Projects :=
  projects.filter fun project => project.1 ≠ root

/-- Writing a key to an ordered map registers it. -/
lemma put_eq_insert (distinct : (projects.map Prod.fst).Nodup) (database : Value) :
    OrderedMap.put root database projects = projects.insert root database := by
  rw [insert]
  by_cases mem : root ∈ projects.map Prod.fst
  · rw [if_pos (List.contains_iff_mem.2 mem)]
    induction projects with
    | nil => exact absurd mem List.not_mem_nil
    | cons project projects ih =>
      obtain ⟨new, distinct⟩ := List.nodup_cons.1 distinct
      rw [OrderedMap.put, List.map_cons]
      by_cases same : project.1 = root
      · -- no other project has this root, so the others stay
        have others : (projects.map fun project =>
            if project.1 = root then (root, database) else project) = projects := by
          refine (List.map_congr_left fun other there => if_neg ?_).trans (List.map_id projects)
          rintro e
          exact new (same ▸ e ▸ List.mem_map_of_mem there)
        rw [if_pos (by simpa using same), if_pos same, others, same]
      · rw [if_neg (by simpa using same), if_neg same]
        rw [List.map_cons, List.mem_cons] at mem
        rw [ih distinct (mem.resolve_left (Ne.symm same))]
  · rw [if_neg (mt List.contains_iff_mem.1 mem)]
    have atEnd := OrderedMap.put_append_of_not_mem database [] mem
    rwa [List.append_nil] at atEnd

/-- Taking a key out of an ordered map forgets it. -/
lemma erase_entriesOf (projects : Projects) (root : Text) :
    OrderedMap.erase (.text root) (entriesOf projects) = entriesOf (projects.delete root) := by
  rw [OrderedMap.erase, delete, entriesOf, entriesOf, List.filter_map]
  congr 2
  funext project
  simp [Scalar.text_beq_text, beq_eq_decide]

/-- Forgetting a root that is not registered changes nothing. -/
lemma delete_of_not_mem (new : root ∉ projects.map Prod.fst) : projects.delete root = projects := by
  rw [delete, List.filter_eq_self]
  intro project mem
  have ne : project.1 ≠ root := by
    rintro rfl
    exact new (List.mem_map_of_mem mem)
  exact decide_eq_true ne

/-- A root is registered if it is a key. -/
lemma contains_entriesOf :
    OrderedMap.contains (.text root) (entriesOf projects) = true ↔ root ∈ projects.map Prod.fst := by
  rw [OrderedMap.contains, entriesOf, List.any_map, List.any_eq_true, List.mem_map]
  simp [Scalar.text_beq_text]

end Projects

namespace Settings

/-- Settings and files after a change that could be made. -/
def Change.outcome {α : Type} (change : Change α) : Except Fault (Settings × FileSystem) :=
  change.result.map fun _ => (change.settings, change.files)

/-- What can be done with settings. -/
inductive Operation where
  | set (name : Text) (value : Value)
  | addProject (root database : Text)
  | removeProject (root : Text)
  /-- Loads the settings anew. -/
  | reload

namespace Operation

/-- Does an operation. -/
def perform (env : Env) (s : Settings) (fs : FileSystem) :
    Operation → Except Fault (Settings × FileSystem)
  | .set name value => (s.set env fs name value).outcome
  | .addProject root database => (s.addProject env fs root database).outcome
  | .removeProject root => (s.removeProject env fs root).outcome
  | .reload =>
    match load env fs with
    | (.ok s, fs) => .ok (s, fs)
    | (.error fault, _) => .error fault

/-- Whether an operation is given plain values, of the right kind where a known setting is set. A value
stands one level below the settings. -/
def IsAllowed (env : Env) : Operation → Prop
  | .set name value =>
    name.HasBytes ∧ value.IsPlain (env.levels - 1) ∧ SettingValues.HasKind name value
  | .addProject root database => root.HasBytes ∧ database.HasBytes
  | .removeProject _ => True
  | .reload => True

/-- What an operation makes of the registered projects. -/
def onProjects (projects : Projects) (op : Operation) : Projects :=
  match op with
  | .set name value => if name = "projects" then value.members else projects
  | .addProject root database => projects.insert root (.text database)
  | .removeProject root => projects.delete root
  | .reload => projects

end Operation

/-- Does operations in turn, as long as they succeed. -/
def performAll (env : Env) :
    List Operation → Settings × FileSystem → Except Fault (Settings × FileSystem)
  | [], state => .ok state
  | op :: ops, (s, fs) =>
    match op.perform env s fs with
    | .error fault => .error fault
    | .ok state => performAll env ops state

/-- Whether settings are plain and what is loaded from the files, which does not change them. -/
structure IsKept (env : Env) (s : Settings) (fs : FileSystem) : Prop where
  loaded : load env fs = (.ok s, fs)
  isOpen : IsOpen env fs s
  plain : (Value.object s.values).IsPlain env.levels

/-- The registered projects of settings. -/
def projects (s : Settings) : Projects := (s.values.get "projects").members

variable {env : Env} {fs fs' : FileSystem} {s s' : Settings} {name root database : Text}
  {value : Value}

/-- Settings cannot be saved only where the files cannot be accessed, or where a value cannot be
written. -/
lemma fault_of_save {fault : Fault} (failed : (save env fs s).result = .error fault) :
    (∃ access, fault = .access access) ∨ ∃ rejected, fault = .unwritable rejected ∧
      (Json.render env.writeLevels s.values.toDocument).fault? = some rejected := by
  rw [save] at failed
  split at failed
  · exact .inl ⟨_, (Except.error.inj failed).symm⟩
  · dsimp only at failed
    split at failed
    · exact .inl ⟨_, (Except.error.inj failed).symm⟩
    · rw [Json.Draft.result] at failed
      split at failed
      · exact absurd failed (by simp [Except.mapError])
      · rename_i rejected cut
        exact .inr ⟨rejected, (Except.error.inj failed).symm, cut⟩

/-- A value is set where the settings with it are saved. -/
lemma save_of_set (made : (s.set env fs name value).outcome = .ok (s', fs')) :
    save env fs { s with values := OrderedMap.put name value s.values } = ⟨s', fs', .ok ()⟩ := by
  obtain ⟨⟨⟩, result, e⟩ := Json.map_eq_ok_iff.1 made
  obtain ⟨settings_eq, files_eq⟩ := Prod.mk.inj e
  rw [← settings_eq, ← files_eq, ← result]
  rfl

section Projects

variable {P : Scalar → Prop} {levels : Nat} (settled : s.values.IsSettled)
  (made : (Value.object s.values).IsMadeOf P levels)

include settled made

/-- The projects of settled settings are a map of what the settings are made of. -/
lemma get_projects :
    s.values.get "projects" = .object s.projects ∧
      (Value.object s.projects).IsMadeOf P (levels - 1) := by
  obtain ⟨projects, found, madeProjects⟩ := settled.exists_projects made
  have same : s.projects = projects := by
    rw [Settings.projects, found]
    exact Value.members_object projects
  rw [found, same]
  exact ⟨rfl, madeProjects⟩

/-- Registering a project sets the projects. -/
lemma addProject_eq_set (root database : Text) :
    s.addProject env fs root database =
      s.set env fs "projects" (.object (s.projects.insert root (.text database))) := by
  obtain ⟨found, madeProjects⟩ := get_projects settled made
  rw [addProject, SettingValues.projects_of_get found]
  dsimp only
  rw [put_entriesOf, Projects.put_eq_insert madeProjects.of_object.2.2.1]
  rfl

end Projects

namespace IsKept

/-- The projects of kept settings are a plain map. -/
lemma get_projects (kept : IsKept env s fs) :
    s.values.get "projects" = .object s.projects ∧
      (Value.object s.projects).IsPlain (env.levels - 1) :=
  Settings.get_projects (isSettled_of_load kept.loaded) kept.plain

/-- Setting a plain value of the right kind keeps the settings. -/
lemma set (kept : IsKept env s fs) (hasBytes : name.HasBytes) (plain : value.IsPlain (env.levels - 1))
    (kind : SettingValues.HasKind name value)
    (made : (s.set env fs name value).outcome = .ok (s', fs')) :
    IsKept env s' fs' ∧ s'.values = OrderedMap.put name value s.values := by
  have plain' := kept.plain.put hasBytes plain
  have settled' := (isSettled_of_load kept.loaded).put kind
  have writable := (Value.isWritable_of_isPlain plain').of_le (min_le_left _ env.writeLevels)
  have saved := save_of_set made
  obtain ⟨s'_eq, _, fs₁, making, written⟩ := exists_write_of_save saved
  -- the values are plain, so what is read back from the file is what was written
  have loaded := load_of_save kept.loaded kept.isOpen settled' writable saved
  rw [SettingValues.reread_eq_self plain', ← s'_eq] at loaded
  have made₁ := (load_eq_ok_iff.1 kept.loaded).2.1
  obtain rfl := (Prod.mk.inj (made₁.symm.trans making)).1
  have isOpen := FileSystem.isReadable_of_read (FileSystem.read_write kept.isOpen written)
  subst s'_eq
  exact ⟨⟨loaded, isOpen, plain'⟩, rfl⟩

/-- Setting a plain value fails only where the files cannot be accessed. -/
lemma fault_of_set (kept : IsKept env s fs) {fault : Fault}
    (failed : (s.set env fs name value).result = .error fault) :
    (∃ access, fault = .access access) ∨
      ¬ (name.HasBytes ∧ value.IsPlain (env.levels - 1)) ∧
        ∃ rejected, fault = .unwritable rejected := by
  refine (fault_of_save failed).imp_right ?_
  rintro ⟨rejected, rfl, cut⟩
  refine ⟨fun ⟨hasBytes, plain⟩ => ?_, rejected, rfl⟩
  have plain' := kept.plain.put hasBytes plain
  have writable := (Value.isWritable_of_isPlain plain').of_le (min_le_right env.readLevels _)
  have whole := congrArg Json.Draft.fault? (Json.render_of_isWritable writable)
  exact absurd (cut.symm.trans whole) (by simp)

/-- The registered projects, as they are changed. -/
lemma projects_eq (kept : IsKept env s fs) : s.values.projects = .ok (entriesOf s.projects) :=
  SettingValues.projects_of_get kept.get_projects.1

/-- Registering a project sets the projects. -/
lemma addProject_eq (kept : IsKept env s fs) (root database : Text) :
    s.addProject env fs root database =
      s.set env fs "projects" (.object (s.projects.insert root (.text database))) :=
  addProject_eq_set (isSettled_of_load kept.loaded) kept.plain root database

/-- Forgetting a project that is registered sets the projects. -/
lemma removeProject_of_mem (kept : IsKept env s fs) (mem : root ∈ s.projects.map Prod.fst) :
    s.removeProject env fs root =
      let change := s.set env fs "projects" (.object (s.projects.delete root))
      ⟨change.settings, change.files, change.result.map fun _ => true⟩ := by
  rw [removeProject, kept.projects_eq]
  dsimp only
  rw [if_pos (Projects.contains_entriesOf.2 mem), Projects.erase_entriesOf]
  rfl

/-- Forgetting a project that is not registered changes nothing. -/
lemma removeProject_of_not_mem (kept : IsKept env s fs) (new : root ∉ s.projects.map Prod.fst) :
    s.removeProject env fs root = ⟨s, fs, .ok false⟩ := by
  rw [removeProject, kept.projects_eq]
  dsimp only
  rw [if_neg (mt Projects.contains_entriesOf.1 new)]

/-- Setting other projects keeps the settings. -/
lemma setProjects (kept : IsKept env s fs) {projects : Projects}
    (plain : (Value.object projects).IsPlain (env.levels - 1))
    (made : (s.set env fs "projects" (.object projects)).outcome = .ok (s', fs')) :
    IsKept env s' fs' ∧ s'.projects = projects := by
  obtain ⟨kept', values_eq⟩ := kept.set (by decide) plain (SettingValues.hasKind_projects projects) made
  refine ⟨kept', ?_⟩
  rw [Settings.projects, SettingValues.get, values_eq, OrderedMap.get?_put, if_pos rfl]
  exact Value.members_object projects

/-- The projects are plain where one is registered. -/
lemma isPlain_insert (kept : IsKept env s fs) (root_hasBytes : root.HasBytes)
    (database_hasBytes : database.HasBytes) :
    (Value.object (s.projects.insert root (.text database))).IsPlain (env.levels - 1) := by
  have plain := kept.get_projects.2
  have plainDatabase : (Value.text database).IsPlain (env.levels - 1 - 1) :=
    .scalar database_hasBytes
  have plain' := plain.put root_hasBytes plainDatabase
  rwa [Projects.put_eq_insert plain.of_object.2.2.1] at plain'

/-- An operation keeps the settings, and does to the projects what it should. -/
theorem perform (kept : IsKept env s fs) {op : Operation} (allowed : op.IsAllowed env)
    (performed : op.perform env s fs = .ok (s', fs')) :
    IsKept env s' fs' ∧ s'.projects = Operation.onProjects s.projects op := by
  have plain := kept.get_projects.2
  cases op with
  | set name value =>
    obtain ⟨hasBytes, plain, kind⟩ := allowed
    obtain ⟨kept', values_eq⟩ := kept.set hasBytes plain kind performed
    refine ⟨kept', ?_⟩
    rw [Settings.projects, SettingValues.get, values_eq, OrderedMap.get?_put, Operation.onProjects]
    by_cases isProjects : name = "projects"
    · rw [if_pos isProjects.symm, if_pos isProjects]
      rfl
    · rw [if_neg (Ne.symm isProjects), if_neg isProjects]
      rfl
  | addProject root database =>
    rw [Operation.perform, kept.addProject_eq] at performed
    exact kept.setProjects (kept.isPlain_insert allowed.1 allowed.2) performed
  | removeProject root =>
    rw [Operation.perform] at performed
    by_cases mem : root ∈ s.projects.map Prod.fst
    · rw [kept.removeProject_of_mem mem] at performed
      refine kept.setProjects (plain.filter _) ?_
      obtain ⟨_, result, e⟩ := Json.map_eq_ok_iff.1 performed
      obtain ⟨⟨⟩, result, _⟩ := Json.map_eq_ok_iff.1 result
      exact Json.map_eq_ok_iff.2 ⟨(), result, e⟩
    · rw [kept.removeProject_of_not_mem mem] at performed
      obtain ⟨⟩ := performed
      exact ⟨kept, (Projects.delete_of_not_mem mem).symm⟩
  | reload =>
    rw [Operation.perform, kept.loaded] at performed
    obtain ⟨⟩ := performed
    exact ⟨kept, rfl⟩

/-- An operation fails only where the files cannot be accessed, or where it is given what cannot be
written. -/
lemma fault_of_perform (kept : IsKept env s fs) {op : Operation} {fault : Fault}
    (failed : op.perform env s fs = .error fault) :
    (∃ access, fault = .access access) ∨
      ¬ op.IsAllowed env ∧ ∃ rejected, fault = .unwritable rejected := by
  cases op with
  | set name value =>
    exact (kept.fault_of_set (Json.map_eq_error_iff.1 failed)).imp_right
      (And.imp_left (mt fun allowed => ⟨allowed.1, allowed.2.1⟩))
  | addProject root database =>
    rw [Operation.perform, kept.addProject_eq] at failed
    exact (kept.fault_of_set (Json.map_eq_error_iff.1 failed)).imp_right
      (And.imp_left (mt fun allowed => ⟨by decide, kept.isPlain_insert allowed.1 allowed.2⟩))
  | removeProject root =>
    rw [Operation.perform] at failed
    by_cases mem : root ∈ s.projects.map Prod.fst
    · rw [kept.removeProject_of_mem mem] at failed
      have failed' := Json.map_eq_error_iff.1 (Json.map_eq_error_iff.1 failed)
      exact (kept.fault_of_set failed').imp_right
        (And.imp_left (mt fun _ => ⟨by decide, kept.get_projects.2.filter _⟩))
    · rw [kept.removeProject_of_not_mem mem] at failed
      exact absurd (Json.map_eq_error_iff.1 failed) (by simp)
  | reload =>
    rw [Operation.perform, kept.loaded] at failed
    exact absurd failed (by simp)

/-- A run of operations keeps the settings, and does to the projects what it should. -/
lemma performAll (kept : IsKept env s fs) {ops : List Operation}
    (allowed : ∀ op ∈ ops, op.IsAllowed env)
    (performed : performAll env ops (s, fs) = .ok (s', fs')) :
    IsKept env s' fs' ∧ s'.projects = ops.foldl Operation.onProjects s.projects := by
  induction ops generalizing s fs with
  | nil =>
    obtain ⟨⟩ := performed
    exact ⟨kept, rfl⟩
  | cons op ops ih =>
    obtain ⟨first, others⟩ := List.forall_mem_cons.1 allowed
    rw [Settings.performAll] at performed
    split at performed
    · exact absurd performed (by simp)
    · rename_i state step
      obtain ⟨s₁, fs₁⟩ := state
      obtain ⟨kept₁, projects_eq⟩ := kept.perform first step
      obtain ⟨kept', projects_eq'⟩ := ih kept₁ others performed
      refine ⟨kept', ?_⟩
      rw [projects_eq', projects_eq, List.foldl_cons]

end IsKept

/-- Whether there is nothing at a path, or the document of a map of plain values. -/
def HoldsPlain (env : Env) (fs : FileSystem) (path : Text) : Prop :=
  fs.probe env.cwd path = .ok none ∨ ∃ content text members,
    fs.read env.cwd path = .ok content ∧ Text.decodeUtf8 content = .ok text ∧
      Json.parse env.readLevels (Text.unifyNewlines text) = .ok (.object members) ∧
      (Value.object members).IsPlain env.levels

/-- The settings of a map of plain values are plain. -/
lemma isPlain_ofDocument {members : List (Text × Value)}
    (plain : (Value.object members).IsPlain env.levels) :
    (Value.object (SettingValues.ofDocument (.object members))).IsPlain env.levels := by
  have four_le := env.four_le_min_levels
  have distinct := (SettingValues.isSettled_ofDocument (.object members)).distinct
  refine .object_of_forall (by omega) distinct fun entry mem => ?_
  obtain mem | ⟨entries, e, mem⟩ := SettingValues.mem_ofDocument mem
  · obtain ⟨hasBytes, plainDefault⟩ := SettingValues.isPlain_of_mem_defaults mem
    exact ⟨hasBytes, plainDefault.of_le (by omega)⟩
  · rw [e] at plain
    exact plain.of_mem mem

/-- A document of plain values can be loaded. -/
lemma HoldsPlain.exists_load {directory : Text}
    (plain : HoldsPlain env fs' (Path.join directory "config.json"))
    (home : directoryIn env = .ok directory)
    (made : fs.ensureDirectories env.cwd directory = (fs', none)) :
    ∃ s, load env fs = (.ok s, fs') ∧ IsKept env s fs' := by
  have read : ∃ values, readFile env fs' (Path.join directory "config.json") = .ok values ∧
      fs'.IsReadable env.cwd (Path.join directory "config.json") ∧
      (Value.object values).IsPlain env.levels := by
    obtain missing | ⟨content, text, members, found, decoded, parsed, plain⟩ := plain
    · have four_le := env.four_le_min_levels
      refine ⟨.defaults, ?_, FileSystem.isReadable_of_probe missing,
        SettingValues.isPlain_defaults.of_le (by omega)⟩
      rw [readFile, missing]
    · exact ⟨_, readFile_of_parse found decoded parsed, FileSystem.isReadable_of_read found,
        isPlain_ofDocument plain⟩
  obtain ⟨values, read, isOpen, plain⟩ := read
  have loaded : load env fs = (.ok ⟨directory, values⟩, fs') := load_eq_ok_iff.2 ⟨home, made, read⟩
  exact ⟨_, loaded, load_of_load loaded, isOpen, plain⟩

/-- Settings that start from a document of plain values can be loaded. After any changes that were
written, the settings in memory are those in the file, and the registered projects are what the
changes make of a map in their order; forgetting a root says whether it was registered, and does
nothing if it was not; and a further change fails only where the files cannot be accessed, or where it is
given what cannot be written. -/
theorem performAll_refines {directory : Text} (home : directoryIn env = .ok directory)
    (made : fs.ensureDirectories env.cwd directory = (fs', none))
    (plain : HoldsPlain env fs' (Path.join directory "config.json")) :
    ∃ s, load env fs = (.ok s, fs') ∧ ∀ ops : List Operation, (∀ op ∈ ops, op.IsAllowed env) →
      ∀ s' fs'', performAll env ops (s, fs') = .ok (s', fs'') →
        load env fs'' = (.ok s', fs'') ∧
        s'.values.get "projects" = .object (ops.foldl Operation.onProjects s.projects) ∧
        (∀ root ∈ s'.projects.map Prod.fst, ∀ found,
          (s'.removeProject env fs'' root).result = .ok found → found = true) ∧
        (∀ root ∉ s'.projects.map Prod.fst,
          s'.removeProject env fs'' root = ⟨s', fs'', .ok false⟩) ∧
        ∀ op fault, Operation.perform env s' fs'' op = .error fault →
          (∃ access, fault = .access access) ∨
            ¬ op.IsAllowed env ∧ ∃ rejected, fault = .unwritable rejected := by
  obtain ⟨s, loaded, kept⟩ := plain.exists_load home made
  refine ⟨s, loaded, fun ops allowed s' fs'' performed => ?_⟩
  obtain ⟨kept', projects_eq⟩ := kept.performAll allowed performed
  refine ⟨kept'.loaded, projects_eq ▸ kept'.get_projects.1, fun root mem found removed => ?_,
    fun root new => kept'.removeProject_of_not_mem new,
    fun op fault failed => kept'.fault_of_perform failed⟩
  rw [kept'.removeProject_of_mem mem] at removed
  obtain ⟨_, _, e⟩ := Json.map_eq_ok_iff.1 removed
  exact e.symm

/-- The circumstances of a run in a home directory. -/
def homeEnv : Env := { home := "/h", cwd := ⟨["h"], 0⟩, clock := 0 }

/-- Files with a home directory, where settings may have been saved, and with two files elsewhere. -/
def homeFiles (document : Option ByteArray) : FileSystem where
  nodes := (["h"], .directory) :: (["d"], .file .empty) :: (["e"], .file .empty) ::
    (["h", ".cdbflags"], .directory) :: (document.map fun content =>
      ((["h", ".cdbflags", "config.json"] : Location), Node.file content)).toList

/-- Settings in a home directory, with the given projects. -/
def homeSettings (projects : Projects) : Settings :=
  ⟨"/h/.cdbflags", OrderedMap.put "projects" (.object projects) SettingValues.defaults⟩

/-- The directory of the settings can be used. -/
lemma ensureDirectories_homeFiles (content : ByteArray) :
    (homeFiles (some content)).ensureDirectories homeEnv.cwd "/h/.cdbflags" =
      (homeFiles (some content), none) := by
  cbv

/-- The document of the settings can be read. -/
lemma read_homeFiles (content : ByteArray) : (homeFiles (some content)).read homeEnv.cwd
    (Path.join "/h/.cdbflags" "config.json") = .ok content := by
  cbv

/-- The document of the settings can be written, whether or not it is there. -/
lemma write_homeFiles (document : Option ByteArray) (content : ByteArray) :
    (homeFiles document).write homeEnv.cwd (Path.join "/h/.cdbflags" "config.json") content =
      .ok (homeFiles (some content)) := by
  cases document with
  | none => cbv
  | some old => cbv

/-- Settings in a home directory are loaded from a document of projects. -/
lemma load_homeFiles {document : String} {projects : Projects}
    (parsed : Json.parse 990 (Text.unifyNewlines (Text.ofString document)) =
      .ok (.object [("projects", .object projects)])) :
    load homeEnv (homeFiles (some document.toUTF8)) =
      (.ok (homeSettings projects), homeFiles (some document.toUTF8)) := by
  have found := read_homeFiles document.toUTF8
  refine load_eq_ok_iff.2 ⟨by cbv, ensureDirectories_homeFiles _, ?_⟩
  exact readFile_of_parse found (Text.decodeUtf8_toUTF8 document) parsed

/-- Settings in a home directory can be saved. -/
lemma save_homeSettings (document : Option ByteArray) {projects : Projects}
    (writable : Json.IsWritable 989 (.object projects)) :
    ∃ content, save homeEnv (homeFiles document) (homeSettings projects) =
      ⟨homeSettings projects, homeFiles (some content), .ok ()⟩ := by
  have made : (homeFiles document).ensureDirectories homeEnv.cwd "/h/.cdbflags" =
      (homeFiles document, none) := by
    cases document <;> cbv
  have file : (homeSettings projects).file = Path.join "/h/.cdbflags" "config.json" := rfl
  have directory : (homeSettings projects).directory = "/h/.cdbflags" := rfl
  have defaults : Json.IsWritable 990 (.object SettingValues.defaults) :=
    Value.isWritable_of_isPlain (SettingValues.isPlain_defaults.of_le (by decide))
  have named : Json.IsWritableScalar (.text "projects") := Json.isSeparable_of_hasBytes (by decide)
  have whole := congrArg Json.Draft.result
    (Json.render_of_isWritable (defaults.put named writable))
  refine ⟨(Json.render 990 (homeSettings projects).values.toDocument).bytes, ?_⟩
  rw [save, file, directory, made]
  dsimp only
  rw [write_homeFiles]
  exact congrArg (fun result => Change.mk _ _ (result.mapError Fault.unwritable)) whole

/-- In a home directory, a project can be registered. -/
lemma addProject_homeSettings (document : Option ByteArray) {projects : Projects}
    (writable : Json.IsWritable 989 (.object projects)) (root_separable : Json.IsSeparable root)
    (database_separable : Json.IsSeparable database) :
    Json.IsWritable 989 (.object (OrderedMap.put root (.text database) projects)) ∧
      ∃ content, (homeSettings projects).addProject homeEnv (homeFiles document) root database =
        ⟨homeSettings (OrderedMap.put root (.text database) projects), homeFiles (some content),
          .ok ()⟩ := by
  have found : (homeSettings projects).values.get "projects" = .object projects := rfl
  have writableDatabase : Json.IsWritable 988 (.text database) := .scalar database_separable
  have writable' := writable.put root_separable writableDatabase
  obtain ⟨content, saved⟩ := save_homeSettings document writable'
  refine ⟨writable', content, ?_⟩
  rw [addProject, SettingValues.projects_of_get found]
  dsimp only
  rw [put_entriesOf]
  exact saved

/-- In a home directory, projects can be registered. -/
lemma exists_performAll_homeSettings {registrations : List (Text × Text)} {projects : Projects}
    (writable : Json.IsWritable 989 (.object projects))
    (separable : ∀ r ∈ registrations, Json.IsSeparable r.1 ∧ Json.IsSeparable r.2)
    (document : Option ByteArray) :
    ∃ s fs, performAll homeEnv (registrations.map fun r => .addProject r.1 r.2)
      (homeSettings projects, homeFiles document) = .ok (s, fs) := by
  induction registrations generalizing projects document with
  | nil => exact ⟨_, _, rfl⟩
  | cons r registrations ih =>
    obtain ⟨first, others⟩ := List.forall_mem_cons.1 separable
    obtain ⟨writable', content, added⟩ :=
      addProject_homeSettings document writable first.1 first.2
    rw [List.map_cons, performAll, Operation.perform, added]
    exact ih writable' others (some content)

/-- Where a project is registered anew, it keeps its place. -/
theorem performAll_refines_homeSettings :
    let registrations : List Operation :=
      [.addProject "/a" "/d", .addProject "/b" "/d", .addProject "/a" "/e"]
    load homeEnv (homeFiles none) = (.ok (homeSettings []), homeFiles none) ∧
      ∃ s fs, performAll homeEnv registrations (homeSettings [], homeFiles none) = .ok (s, fs) ∧
        load homeEnv fs = (.ok s, fs) ∧
        s.values.get "projects" = .object [("/a", .text "/e"), ("/b", .text "/d")] := by
  intro registrations
  have home : directoryIn homeEnv = .ok "/h/.cdbflags" := by cbv
  have made : (homeFiles none).ensureDirectories homeEnv.cwd "/h/.cdbflags" =
      (homeFiles none, none) := by cbv
  have missing : (homeFiles none).probe homeEnv.cwd (Path.join "/h/.cdbflags" "config.json") =
      .ok none := by cbv
  obtain ⟨s, loaded, run⟩ := performAll_refines home made (.inl missing)
  have loads : load homeEnv (homeFiles none) = (.ok (homeSettings []), homeFiles none) := by cbv
  obtain rfl : s = homeSettings [] := Except.ok.inj (Prod.mk.inj (loaded.symm.trans loads)).1
  have writable : Json.IsWritable 989 (.object []) := .object_of_forall (by decide) (by simp) (by simp)
  have characters : ∀ r ∈ ([("/a", "/d"), ("/b", "/d"), ("/a", "/e")] : List (Text × Text)),
      r.1.HasBytes ∧ r.2.HasBytes := by
    simp only [List.forall_mem_cons]
    decide
  obtain ⟨s, fs, performed⟩ := exists_performAll_homeSettings writable
    (fun r mem => (characters r mem).imp Json.isSeparable_of_hasBytes Json.isSeparable_of_hasBytes)
    none
  have allowed : ∀ op ∈ registrations, op.IsAllowed homeEnv := by
    rw [List.forall_mem_cons, List.forall_mem_cons, List.forall_mem_singleton] at characters ⊢
    exact characters
  obtain ⟨loaded', projects_eq, _⟩ := run registrations allowed _ _ performed
  refine ⟨loads, s, fs, performed, loaded', projects_eq.trans ?_⟩
  cbv

end Settings

end CompileFlags
