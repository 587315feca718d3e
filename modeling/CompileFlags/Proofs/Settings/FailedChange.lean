import CompileFlags.Proofs.Settings.Operations

/-!
# Changes that fail

A change of settings (`Settings.Edit`) sets one value in memory first, then opens their file, and then
writes it anew, chunk by chunk. So a change that fails leaves everything as it was only where the
registered projects are no map. Otherwise the new value stays in memory; the file keeps its text if it
could not be opened, and holds what comes before the first chunk that cannot be written if it could
(`Settings.Leaves`, `Settings.leaves_apply`).
-/

namespace CompileFlags.Settings

variable {env : Env} {fs : FileSystem} {s : Settings} {fault : Fault}

/-- A request to change settings. -/
inductive Edit where
  | set (name : Text) (value : Value)
  | addProject (root database : Text)
  | removeProject (root : Text)

namespace Edit

/-- What is left after an edit. -/
def apply (env : Env) (fs : FileSystem) (s : Settings) : Edit → Change Unit
  | .set name value => s.set env fs name value
  | .addProject root database => s.addProject env fs root database
  | .removeProject root =>
    let change := s.removeProject env fs root
    ⟨change.settings, change.files, change.result.map fun _ => ()⟩

/-- The value that an edit sets, if it sets one. To register and to forget a project sets all of them. -/
def assignment? (values : SettingValues) : Edit → Except Fault (Option (Text × Value))
  | .set name value => .ok (some (name, value))
  | .addProject root database => values.projects.map fun projects =>
    some ("projects", .map (OrderedMap.put (.text root) (.text database) projects))
  | .removeProject root => values.projects.map fun projects =>
    if OrderedMap.contains (.text root) projects then
      some ("projects", .map (OrderedMap.erase (.text root) projects))
    else none

end Edit

variable {edit : Edit}

/-- Settings with one value set. -/
def put (s : Settings) (assignment : Text × Value) : Settings :=
  { s with values := OrderedMap.put assignment.1 assignment.2 s.values }

/-- An edit sets its value and saves the settings. -/
lemma apply_eq (env : Env) (fs : FileSystem) (s : Settings) (edit : Edit) :
    edit.apply env fs s =
      match edit.assignment? s.values with
      | .error fault => ⟨s, fs, .error fault⟩
      | .ok none => ⟨s, fs, .ok ()⟩
      | .ok (some assignment) => (s.put assignment).save env fs := by
  cases edit with
  | set name value => rfl
  | addProject root database =>
    rw [Edit.apply, addProject, Edit.assignment?]
    cases s.values.projects with
    | error fault => rfl
    | ok projects => rfl
  | removeProject root =>
    rw [Edit.apply, removeProject, Edit.assignment?]
    cases s.values.projects with
    | error fault => rfl
    | ok projects =>
      dsimp only [Except.map]
      split
      · dsimp only
        rw [set, put]
        generalize save env fs _ = change
        obtain ⟨settings, files, result⟩ := change
        cases result <;> rfl
      · rfl

/-- What an edit sets can be told, unless the registered projects are no map. -/
lemma noMap_of_assignment? (failed : edit.assignment? s.values = .error fault) :
    (∀ name value, edit ≠ .set name value) ∧
      ∃ why, fault = .notMapping why ∧ (s.values.get "projects").toMapping = .error why := by
  have noMap (projects : s.values.projects = .error fault) :
      ∃ why, fault = .notMapping why ∧ (s.values.get "projects").toMapping = .error why := by
    rw [SettingValues.projects] at projects
    split at projects
    · exact absurd projects (by simp)
    · rename_i why refused
      exact ⟨why, (Except.error.inj projects).symm, refused⟩
  cases edit with
  | set name value => exact absurd failed (by simp [Edit.assignment?])
  | addProject root database | removeProject root =>
    refine ⟨by simp, noMap ?_⟩
    rw [Edit.assignment?] at failed
    cases projects : s.values.projects with
    | error other =>
      rw [projects] at failed
      exact congrArg Except.error (Except.error.inj failed)
    | ok entries =>
      rw [projects] at failed
      exact absurd failed (by simp [Except.map])

/-- Whether the file of settings can be opened to be written: its directory is there or can be made, and
the system does not refuse to open the file. -/
def CanOpen (env : Env) (fs : FileSystem) (s : Settings) : Prop :=
  ∃ made, fs.ensureDirectories env.cwd s.directory = (made, none) ∧
    ∃ content written, made.write env.cwd s.file content = .ok written

/-- What is left after an edit that failed. -/
inductive Leaves (env : Env) (fs : FileSystem) (s : Settings) (edit : Edit) : Change Unit → Prop where
  /-- The registered projects are no map, so nothing has changed. -/
  | untouched {why : MappingFault} (changesProjects : ∀ name value, edit ≠ .set name value)
    (noMap : (s.values.get "projects").toMapping = .error why) :
    Leaves env fs s edit ⟨s, fs, .error (.notMapping why)⟩
  /-- The file could not be opened: at most some directories have been made. -/
  | unopened {assignment : Text × Value} {files : FileSystem} {fault : AccessFault}
    (assigned : edit.assignment? s.values = .ok (some assignment)) (closed : ¬ s.CanOpen env fs)
    (gains : fs.GainsDirectories files)
    (kept : ∀ content, fs.status env.cwd s.file = .ok (.file content) →
      files.status env.cwd s.file = .ok (.file content)) :
    Leaves env fs s edit ⟨s.put assignment, files, .error (.access fault)⟩
  /-- The file was opened, and holds what comes before the first chunk that cannot be written. -/
  | rejected {assignment : Text × Value} {files : FileSystem} {why : Json.RenderFault}
    {before : List (List Char)} {rest : List Json.Chunk}
    (assigned : edit.assignment? s.values = .ok (some assignment)) (opened : s.CanOpen env fs)
    (chunks_eq : Json.chunks env.writeLevels 0 (s.put assignment).values.toDocument =
      before.map .ok ++ .error why :: rest)
    (found : files.status env.cwd s.file = .ok (.file (String.ofList before.flatten).toUTF8)) :
    Leaves env fs s edit ⟨s.put assignment, files, .error (.unwritable why)⟩

/-- What is left where settings with a new value are not saved. -/
lemma leaves_save {assignment : Text × Value}
    (assigned : edit.assignment? s.values = .ok (some assignment))
    (failed : ((s.put assignment).save env fs).result = .error fault) :
    Leaves env fs s edit ((s.put assignment).save env fs) := by
  have gains := FileSystem.gainsDirectories_ensureDirectories fs env.cwd s.directory
  have directory : (s.put assignment).directory = s.directory := rfl
  have file : (s.put assignment).file = s.file := rfl
  rw [save, directory, file] at failed ⊢
  split at failed
  · -- the directory could not be made
    rename_i files fault made
    rw [made] at gains
    refine .unopened assigned ?_ gains fun _ => gains.status_eq
    rintro ⟨_, made', _⟩
    exact absurd (made.symm.trans made') (by simp)
  · rename_i files made
    rw [made] at gains
    dsimp only at failed ⊢
    split at failed
    · -- the file could not be opened, which does not depend on what is written to it
      rename_i fault unwritten
      refine .unopened assigned ?_ gains fun _ => gains.status_eq
      rintro ⟨_, made', content, _, written⟩
      obtain rfl := (Prod.mk.inj (made.symm.trans made')).1
      obtain ⟨_, written'⟩ := FileSystem.exists_update written fun _ =>
        (Json.render env.writeLevels (s.put assignment).values.toDocument).bytes
      exact absurd (unwritten.symm.trans written') (by simp)
    · rename_i after written
      obtain ⟨_, found⟩ := FileSystem.status_of_update written
      dsimp only at failed ⊢
      rw [Json.Draft.result] at failed ⊢
      split at failed
      · exact absurd failed (by simp [Except.mapError])
      · rename_i why ended
        obtain ⟨before, rest, chunks_eq, text_eq⟩ := Json.exists_chunks_of_fault? ended
        rw [Json.Draft.bytes, Json.render, text_eq] at found
        exact .rejected assigned ⟨files, made, _, after, written⟩ chunks_eq found

/-- What is left after an edit that failed. If the registered projects are no map, nothing has changed.
Otherwise the value that was to be set has been set in memory, and nothing else there; a file that could not
be opened keeps its text, as no file is touched and only directories may have been made; and a file that
was opened holds what comes before the first chunk that cannot be written. -/
theorem leaves_apply (failed : (edit.apply env fs s).result = .error fault) :
    Leaves env fs s edit (edit.apply env fs s) := by
  rw [apply_eq] at failed ⊢
  cases assigned : edit.assignment? s.values with
  | error fault =>
    obtain ⟨changesProjects, why, rfl, noMap⟩ := noMap_of_assignment? assigned
    exact .untouched changesProjects noMap
  | ok assignment? =>
    rw [assigned] at failed
    cases assignment? with
    | none => exact absurd failed (by simp)
    | some assignment => exact leaves_save assigned failed

/-- An object that JSON has no form for. -/
def plainObject : Value :=
  .scalar (.foreign (.object "<object object>"))

/-- The defaults, and the name of a value that is missing. -/
def brokenDocument : String :=
  "\x7b\n  \"database_name\": \"compile_commands.json\",\n  \"fallback\": true,\n" ++
    "  \"projects\": \x7b\x7d,\n  \"log_file\": \"\",\n  \"x\": "

/-- A document without members. -/
def bareDocument : String := "\x7b\x7d"

/-- What is left where the object is set in a home directory. -/
def afterObject : Change Unit :=
  (Edit.set "x" plainObject).apply homeEnv (homeFiles (some bareDocument.toUTF8)) (homeSettings [])

/-- The object is set, and the document broken off. -/
lemma afterObject_eq : afterObject = ⟨(homeSettings []).put ("x", plainObject),
    homeFiles (some brokenDocument.toUTF8), .error (.unwritable (.notSerializable "object"))⟩ := by
  let after := (homeSettings []).put ("x", plainObject)
  have directory : after.directory = "/h/.cdbflags" := rfl
  have file : after.file = Path.join "/h/.cdbflags" "config.json" := rfl
  have draft : Json.render homeEnv.writeLevels after.values.toDocument =
      ⟨brokenDocument.toList, some (.notSerializable "object")⟩ := by
    cbv
  rw [afterObject, apply_eq]
  change save homeEnv (homeFiles (some bareDocument.toUTF8)) after = _
  rw [save, directory, ensureDirectories_homeFiles]
  dsimp only
  rw [file, draft, write_homeFiles, Json.Draft.bytes]
  dsimp only
  rw [String.ofList_toList]
  rfl

/-- An object that JSON has no form for stays in memory, and the file breaks off before it. -/
theorem leaves_apply_object :
    afterObject.result = .error (.unwritable (.notSerializable "object")) ∧
      Leaves homeEnv (homeFiles (some bareDocument.toUTF8)) (homeSettings []) (.set "x" plainObject)
        afterObject := by
  have failed : afterObject.result = .error (.unwritable (.notSerializable "object")) := by
    rw [afterObject_eq]
  exact ⟨failed, leaves_apply failed⟩

/-- Files with a home directory, where a directory stands in the place of the settings' file. -/
def blockedFiles : FileSystem where
  nodes := [(["h"], .directory), (["h", ".cdbflags"], .directory),
    (["h", ".cdbflags", "config.json"], .directory)]

/-- Changes that fail are found afterwards: in memory, where the file of settings cannot be opened, and
in the file, where a value cannot be written. -/
theorem apply_failed_changed :
    let s := homeSettings []
    let change := (Edit.set "fallback" (.bool false)).apply homeEnv blockedFiles s
    (load homeEnv blockedFiles = (.ok s, blockedFiles) ∧
      change.result = .error (.access (.system .isDirectory "/h/.cdbflags/config.json")) ∧
      s.values.get "fallback" = .bool true ∧ change.settings.values.get "fallback" = .bool false) ∧
    (homeFiles (some bareDocument.toUTF8)).read homeEnv.cwd s.file = .ok bareDocument.toUTF8 ∧
      afterObject.result = .error (.unwritable (.notSerializable "object")) ∧
      afterObject.files.read homeEnv.cwd s.file = .ok brokenDocument.toUTF8 ∧
      brokenDocument ≠ bareDocument := by
  refine ⟨⟨?_, ?_, ?_, ?_⟩, read_homeFiles _, ?_, ?_, by decide⟩
  · cbv
  · cbv
  · cbv
  · cbv
  · rw [afterObject_eq]
  · rw [afterObject_eq]
    exact read_homeFiles _

end CompileFlags.Settings
