import CompileFlags.Cli.Run
import CompileFlags.Proofs.FileSystem.Paths
import CompileFlags.Proofs.Path.Nearest
import CompileFlags.Proofs.Path.Resolve
import CompileFlags.Proofs.Settings.Operations

/-!
# Registering a project

Of the registrations of one directory the first decides, whatever spelling it has
(`registeredDatabase_eq`); a root that cannot be resolved ends the search (`exists_resolvable_of_ok`). The
command registers a project under the normal form of its root, in exchange for what was registered under
that very spelling. So it has an effect exactly if the settings can be read, every root can be resolved, and
the directory is not registered in another spelling before, or with the same database
(`Cli.registeredDatabase_run_iff`).
-/

namespace CompileFlags

variable {env : Env} {fs fs' : FileSystem} {projects : List (Text × Value)}
  {root database file above : Text}

namespace Registration

/-- The directory that a spelling of a root stands for, with a slash at its end. -/
def directory (env : Env) (spelling : Text) : Text :=
  Path.asDirectory (Path.absolute env (Path.expandHome env spelling))

/-- A normal form stands for itself. -/
lemma directory_of_isNormal (normal : Path.IsNormal root) :
    directory env root = Path.asDirectory root := by
  rw [directory, Path.expandHome_of_isAbsolute normal.absolute, Path.absolute_of_isNormal normal]

/-- The directory of a root is that of its normal form. -/
lemma directory_of_ofUser {spelling : Text} (resolved : Path.ofUser env spelling = .ok root) :
    directory env spelling = Path.asDirectory root := by
  obtain ⟨_, _, rfl⟩ := Path.ofUser_eq_ok_iff.1 resolved
  rfl

/-- Whether the roots of projects can all be resolved. -/
def AreResolvable (env : Env) (projects : List (Text × Value)) : Prop :=
  ∀ project ∈ projects, ∃ root, Path.ofUser env project.1 = .ok root

/-- A root that can be resolved may be registered. -/
lemma areResolvable_put_iff (own : ∃ normal, Path.ofUser env root = .ok normal) (value : Value) :
    AreResolvable env (OrderedMap.put root value projects) ↔ AreResolvable env projects := by
  constructor
  · intro resolvable project mem
    have roots := (OrderedMap.isPrefix_map_fst_putAll [(root, value)] projects).subset
    obtain ⟨other, there, same⟩ := List.mem_map.1 (roots (List.mem_map_of_mem mem))
    exact same ▸ resolvable other there
  · intro resolvable project mem
    obtain rfl | mem := OrderedMap.mem_put mem
    · exact own
    · exact resolvable project mem

/-- Whether a file is below no registered directory that is longer than a given one. -/
def IsInnermost (env : Env) (projects : List (Text × Value)) (above file : Text) : Prop :=
  ∀ project ∈ projects, ∀ root, Path.ofUser env project.1 = .ok root →
    Path.covers (Path.asDirectory root) file = true →
      (Path.asDirectory root).length ≤ above.length

/-- A directory stays innermost where it is registered. -/
lemma IsInnermost.put (innermost : IsInnermost env projects above file) (value : Value)
    (own : directory env root = above) :
    IsInnermost env (OrderedMap.put root value projects) above file := by
  intro project mem other resolved covered
  obtain rfl | mem := OrderedMap.mem_put mem
  · rw [← directory_of_ofUser resolved, own]
  · exact innermost project mem other resolved covered

/-- A registration is read if its root can be resolved. -/
lemma ofEntry_of_ofUser {spelling : Text} (resolved : Path.ofUser env spelling = .ok root)
    (value : Value) :
    ofEntry env (.text spelling, value) = .ok ⟨directory env spelling, value⟩ := by
  rw [directory_of_ofUser resolved]
  exact congrArg (Except.map _) resolved

/-- Registrations are read if their roots can be resolved. -/
lemma mapM_ofEntry (resolvable : AreResolvable env projects) :
    (entriesOf projects).mapM (ofEntry env) =
      .ok (projects.map fun project => ⟨directory env project.1, project.2⟩) := by
  induction projects with
  | nil => rfl
  | cons project projects ih =>
    obtain ⟨⟨root, first⟩, others⟩ := List.forall_mem_cons.1 resolvable
    rw [entriesOf_cons, List.mapM_cons, ofEntry_of_ofUser first, ih others]
    rfl

/-- Registrations cannot be read if some root cannot be resolved. -/
lemma mapM_ofEntry_error (unresolvable : ¬ AreResolvable env projects) :
    ∃ fault, (entriesOf projects).mapM (ofEntry env) = .error fault ∧
      ∃ project ∈ projects, Path.ofUser env project.1 = .error fault := by
  induction projects with
  | nil => exact absurd (List.forall_mem_nil _) unresolvable
  | cons project projects ih =>
    rw [entriesOf_cons, List.mapM_cons]
    cases resolved : Path.ofUser env project.1 with
    | error fault =>
      have failed : ofEntry env (.text project.1, project.2) = .error fault :=
        congrArg (Except.map _) resolved
      refine ⟨fault, ?_, project, List.mem_cons_self, resolved⟩
      rw [failed]
      rfl
    | ok root =>
      have others : ¬ AreResolvable env projects :=
        fun others => unresolvable (List.forall_mem_cons.2 ⟨⟨root, resolved⟩, others⟩)
      obtain ⟨fault, failed, other, mem, faulty⟩ := ih others
      refine ⟨fault, ?_, other, List.mem_cons_of_mem project mem, faulty⟩
      rw [ofEntry_of_ofUser resolved, failed]
      rfl

/-- A registered file is found where it is. -/
lemma file?_of_isFile (normal : Path.IsNormal database)
    (isFile : fs.isFile env.cwd database = true) (root : Text) :
    file? env fs ⟨root, .text database⟩ = .ok (some database) := by
  obtain ⟨content, found⟩ := FileSystem.isFile_iff.1 isFile
  have path_eq : path env ⟨root, .text database⟩ database = database := by
    rw [path, Path.expandHome_of_isAbsolute normal.absolute, Path.join, if_pos normal.absolute,
      normal.tidy]
  rw [file?]
  dsimp only
  rw [Path.homeFault?_of_isAbsolute normal.absolute, path_eq, FileSystem.probe_of_status found]

end Registration

/-- A file below a registered directory, and below no longer one, is served by the first registration
of the directory. -/
lemma registeredDatabase_eq (resolvable : Registration.AreResolvable env projects)
    (covered : Path.covers above file = true)
    (innermost : Registration.IsInnermost env projects above file)
    {project : Text × Value}
    (first : projects.find? (Registration.directory env ·.1 = above) = some project) :
    registeredDatabase env fs file (entriesOf projects) =
      Registration.file? env fs ⟨above, project.2⟩ := by
  have nearest : Path.nearest? Registration.root file
      (projects.map fun project => ⟨Registration.directory env project.1, project.2⟩) =
      some ⟨Registration.directory env project.1, project.2⟩ := by
    refine Path.nearest?_eq_of_find? covered (fun registration mem => ?_) ?_
    · obtain ⟨project, there, rfl⟩ := List.mem_map.1 mem
      obtain ⟨root, resolved⟩ := resolvable project there
      rw [Registration.directory_of_ofUser resolved]
      exact innermost project there root resolved
    · rw [List.find?_map]
      exact congrArg (Option.map _) first
  have isDirectory : Registration.directory env project.1 = above := by
    simpa using List.find?_some first
  rw [registeredDatabase, Registration.mapM_ofEntry resolvable]
  dsimp only
  rw [nearest, isDirectory]

/-- A file is served only where every root can be resolved. -/
lemma exists_resolvable_of_ok {found : Option Text}
    (served : registeredDatabase env fs file (entriesOf projects) = .ok found) :
    Registration.AreResolvable env projects := by
  by_contra unresolvable
  obtain ⟨fault, failed, _⟩ := Registration.mapM_ofEntry_error unresolvable
  rw [registeredDatabase, failed] at served
  exact absurd served (by simp)

/-- A project that is registered comes in the place of the one with the same spelling, or last; it is
the first of its directory if no other spelling stands before. -/
lemma find?_put (value : Value) (own : Registration.directory env root = above) :
    (OrderedMap.put root value projects).find? (Registration.directory env ·.1 = above) =
      some (((projects.find? (Registration.directory env ·.1 = above)).filter
        (·.1 ≠ root)).getD (root, value)) := by
  induction projects with
  | nil =>
    rw [OrderedMap.put, List.find?_cons_of_pos (by simpa using own)]
    rfl
  | cons project projects ih =>
    rw [OrderedMap.put]
    by_cases same : project.1 = root
    · have first : Registration.directory env project.1 = above := same ▸ own
      rw [if_pos (by simpa using same), List.find?_cons_of_pos (by simpa using first),
        List.find?_cons_of_pos (by simpa using first), Option.filter, if_neg (by simpa using same),
        same]
      rfl
    · rw [if_neg (by simpa using same)]
      by_cases first : Registration.directory env project.1 = above
      · rw [List.find?_cons_of_pos (by simpa using first),
          List.find?_cons_of_pos (by simpa using first), Option.filter, if_pos (by simpa using same)]
        rfl
      · rw [List.find?_cons_of_neg (by simpa using first),
          List.find?_cons_of_neg (by simpa using first), ih]

namespace Settings

variable {s s' : Settings}

/-- Nothing of a map of texts is lost where it is read. -/
lemma reread_object_of_texts (texts : ∀ project ∈ projects, ∃ t, project.2 = .text t) :
    (Value.object projects).reread = .object projects := by
  refine Value.reread_object fun project mem => ?_
  obtain ⟨t, e⟩ := texts project mem
  rw [e]
  rfl

/-- After a project has been registered, it is among the projects that are loaded; where the file of the
settings cannot be read, there are none. -/
lemma load_of_addProject (loaded : load env fs = (.ok s, fs))
    (found : s.values.get "projects" = .object projects)
    (texts : ∀ project ∈ projects, ∃ t, project.2 = .text t)
    (separable : Json.IsSeparable root ∧ Json.IsSeparable database)
    (added : s.addProject env fs root database = ⟨s', fs', .ok ()⟩) :
    fs.Grows fs' ∧ ∃ s'', load env fs' = (.ok s'', fs') ∧
      (IsOpen env fs s → s''.values.get "projects" =
        .object (OrderedMap.put root (.text database) projects)) ∧
      (¬ IsOpen env fs s → s''.values.get "projects" = .object []) := by
  have there : (("projects" : Text), Value.object projects) ∈ s.values :=
    SettingValues.mem_of_get found (by simp [Value.object])
  have writable := isWritable_of_load loaded
  have writableProjects : Json.IsWritable (env.readLevels - 1) (.object projects) :=
    (writable.of_mem (mem_entriesOf.2 there)).2
  have writableDatabase : Json.IsWritable (env.readLevels - 1 - 1) (.text database) :=
    .scalar separable.2
  have named : Json.IsWritableScalar (.text "projects") := Json.isSeparable_of_hasBytes (by decide)
  have writable' := writable.put named (writableProjects.put separable.1 writableDatabase)
  rw [addProject, SettingValues.projects_of_get found] at added
  dsimp only at added
  rw [put_entriesOf] at added
  refine ⟨grows_of_save added, ?_⟩
  by_cases isOpen : IsOpen env fs s
  · have loaded' := load_of_save loaded isOpen
      ((isSettled_of_load loaded).put (SettingValues.hasKind_projects _)) writable' added
    have texts' : ∀ project ∈ OrderedMap.put root (.text database) projects,
        ∃ t, project.2 = .text t := by
      intro project mem
      obtain rfl | mem := OrderedMap.mem_put mem
      · exact ⟨database, rfl⟩
      · exact texts project mem
    refine ⟨_, loaded', fun _ => ?_, fun closed => absurd isOpen closed⟩
    dsimp only
    rw [SettingValues.get_reread, SettingValues.get, OrderedMap.get?_put, if_pos rfl]
    dsimp only [Option.getD]
    exact reread_object_of_texts texts'
  · have loaded' := load_of_save_of_not_isOpen loaded isOpen added
    exact ⟨_, loaded', fun readable => absurd readable isOpen, fun _ => rfl⟩

end Settings

namespace Cli

/-- A word that is sorted as plain stays as it is. -/
lemma eq_of_classify {word plain : Text} (sorted : classify word = .ok (.plain plain)) :
    plain = word := by
  rw [classify.eq_def] at sorted
  split at sorted
  · split at sorted
    · exact absurd sorted (by simp)
    · dsimp only at sorted
      split at sorted
      · exact absurd sorted (by simp)
      · split at sorted
        · exact absurd sorted (by simp)
        · split at sorted
          · obtain ⟨⟩ := sorted
            rfl
          · exact absurd sorted (by simp)
        · exact absurd sorted (by simp)
  · obtain ⟨⟩ := sorted
    rfl

/-- Words that are sorted as plain stay as they are. -/
lemma eq_of_classifyAll {words : List Text} {plain : Text} {others : List Word}
    (sorted : classifyAll words = .ok (.plain plain :: others)) :
    ∃ rest, words = plain :: rest ∧ classifyAll rest = .ok others := by
  cases words with
  | nil => exact absurd sorted (by simp [classifyAll])
  | cons word rest =>
    rw [classifyAll] at sorted
    split at sorted
    · exact absurd sorted (by simp)
    · split at sorted
      · exact absurd sorted (by simp)
      · rename_i w sortedWord
        obtain ⟨more, sortedRest, e⟩ := Json.map_eq_ok_iff.1 sorted
        obtain ⟨rfl, rfl⟩ := List.cons.inj e
        exact ⟨rest, by rw [eq_of_classify sortedWord], sortedRest⟩

/-- Two words after the option are the project to be registered, unless the command line is refused.
-/
lemma parse_addProject (root database : Text) :
    parse ["--add-project", root, database] = .ok (.run { addProject := some (root, database) }) ∨
      ∃ refusal, parse ["--add-project", root, database] = .error refusal := by
  have option : classify "--add-project" = .ok (.flag .addProject "--add-project" none) := by cbv
  have ne : Text.ofString "--add-project" ≠ "--" := by decide
  rw [parse, classifyAll, if_neg ne, option]
  dsimp only
  cases sorted : classifyAll [root, database] with
  | error refusal => exact .inr ⟨refusal, rfl⟩
  | ok words =>
    by_cases two : ∃ first second more, words = .plain first :: .plain second :: more
    · obtain ⟨first, second, more, rfl⟩ := two
      obtain ⟨rest, e, sorted⟩ := eq_of_classifyAll sorted
      obtain ⟨rfl, rfl⟩ := List.cons.inj e
      obtain ⟨rest, e, sorted⟩ := eq_of_classifyAll sorted
      obtain ⟨rfl, rfl⟩ := List.cons.inj e
      obtain ⟨⟩ := sorted
      exact .inl rfl
    · refine .inr ⟨.missingArguments .addProject, ?_⟩
      dsimp only [Except.map]
      rw [takeWords]
      exact fun first second more e => two ⟨first, second, more, e⟩

variable {console : Report.Console}

/-- What is shown at the end changes no file. -/
lemma files_finish (code : Nat) (message : Text) (fs : FileSystem) :
    (finish console code message fs).files = fs := by
  rw [finish]
  cases consoleLine (console.message message) with
  | ok line => rfl
  | error fault => rfl

/-- A run that registers a project and ends well has saved it. -/
lemma addProject_of_run {s : Settings}
    (loaded : Settings.load env fs = (.ok s, fs'))
    (exit : (run console env fs ["--add-project", root, database]).exit = .ok 0) :
    ∃ s', s.addProject env fs' (Path.absolute env root) (Path.absolute env database) =
      ⟨s', (run console env fs ["--add-project", root, database]).files, .ok ()⟩ := by
  rw [run] at exit ⊢
  obtain parsed | ⟨refusal, parsed⟩ := parse_addProject root database
  · rw [parsed] at exit ⊢
    dsimp only at exit ⊢
    rw [perform, loaded] at exit ⊢
    dsimp only at exit ⊢
    rw [register] at exit ⊢
    split at exit
    · exact absurd exit (by simp)
    · exact absurd exit (by simp)
    · rename_i rootLocated databaseLocated
      obtain ⟨_, rfl⟩ := Path.locate_eq_ok_iff.1 rootLocated
      obtain ⟨_, rfl⟩ := Path.locate_eq_ok_iff.1 databaseLocated
      dsimp only at exit ⊢
      split at exit
      · exact absurd exit (by simp)
      · rename_i result
        refine ⟨(s.addProject env fs' (Path.absolute env root)
          (Path.absolute env database)).settings, ?_⟩
        rw [files_finish, ← result]
  · rw [parsed] at exit
    exact absurd exit (by simp)

section Effect

variable {s : Settings} (loaded : Settings.load env fs = (.ok s, fs'))
  (found : s.values.get "projects" = .object projects)
  (texts : ∀ project ∈ projects, ∃ t, project.2 = .text t)
  (usable : FileSystem.pathFault? (Path.absolute env root) = none)
  (isFile : fs.isFile env.cwd (Path.absolute env database) = true)
  (exit : (run console env fs ["--add-project", root, database]).exit = .ok 0)

include loaded found texts usable isFile exit

/-- After a project has been registered, it is among those that are loaded, unless the file of the settings
cannot be read. -/
lemma registered_run :
    let files : FileSystem := (run console env fs ["--add-project", root, database]).files
    fs.Grows files ∧
      ∃ s', Settings.load env files = (.ok s', files) ∧
        (Settings.IsOpen env fs' s → s'.values.registered = entriesOf (OrderedMap.put
          (Path.absolute env root) (.text (Path.absolute env database)) projects)) ∧
        (¬ Settings.IsOpen env fs' s → s'.values.registered = []) := by
  intro files
  obtain ⟨_, added⟩ := addProject_of_run loaded exit
  obtain ⟨grows, s', loaded', opened, closed⟩ := Settings.load_of_addProject
    (Settings.load_of_load loaded) found texts
    ⟨FileSystem.isSeparable_of_pathFault? usable,
      FileSystem.isSeparable_of_pathFault? (FileSystem.pathFault?_of_isFile isFile)⟩ added
  refine ⟨(Settings.grows_of_load loaded).trans grows, s', loaded', fun isOpen => ?_, fun isClosed => ?_⟩
  · rw [SettingValues.registered, opened isOpen, Value.object]
  · rw [SettingValues.registered, closed isClosed, Value.object]
    rfl

variable (covered : Path.covers (Path.asDirectory (Path.absolute env root)) file = true)
  (innermost : Registration.IsInnermost env projects (Path.asDirectory (Path.absolute env root))
    file)

include covered innermost

omit loaded found texts usable exit in
/-- Of the projects with a new one, a file below its root, and below no longer one, is served by the first
registration of the root in another spelling, where there is one before that in the same spelling, and else
by the new one. -/
lemma registeredDatabase_put_iff {files : FileSystem} (grows : fs.Grows files) :
    registeredDatabase env files file (entriesOf (OrderedMap.put (Path.absolute env root)
        (.text (Path.absolute env database)) projects)) = .ok (some (Path.absolute env database)) ↔
      Registration.AreResolvable env projects ∧
      ∀ project, projects.find? (Registration.directory env ·.1 =
          Path.asDirectory (Path.absolute env root)) = some project →
        project.1 ≠ Path.absolute env root →
        Registration.file? env files ⟨Path.asDirectory (Path.absolute env root), project.2⟩ =
          .ok (some (Path.absolute env database)) := by
  have normal := Path.isNormal_absolute env root
  have own : Registration.directory env (Path.absolute env root) =
      Path.asDirectory (Path.absolute env root) := Registration.directory_of_isNormal normal
  have ownResolvable : ∃ q, Path.ofUser env (Path.absolute env root) = .ok q :=
    ⟨_, Path.ofUser_of_isNormal normal⟩
  have served : Registration.file? env files ⟨Path.asDirectory (Path.absolute env root),
      .text (Path.absolute env database)⟩ = .ok (some (Path.absolute env database)) :=
    Registration.file?_of_isFile (Path.isNormal_absolute env database)
      (FileSystem.isFile_of_grows grows isFile) _
  by_cases resolvable : Registration.AreResolvable env projects
  · rw [registeredDatabase_eq ((Registration.areResolvable_put_iff ownResolvable _).2 resolvable)
      covered (innermost.put _ own) (find?_put _ own), and_iff_right resolvable]
    cases first : projects.find? (Registration.directory env ·.1 =
        Path.asDirectory (Path.absolute env root)) with
    | none => exact iff_of_true served fun _ e => absurd e (by simp)
    | some project =>
      by_cases same : project.1 = Path.absolute env root
      · -- in the same spelling the new database takes the place of the old one
        rw [Option.filter, if_neg (by simpa using same)]
        refine iff_of_true served fun other e ne => ?_
        obtain rfl := Option.some.inj e
        exact absurd same ne
      · rw [Option.filter, if_pos (by simpa using same)]
        constructor
        · intro result other e _
          obtain rfl := Option.some.inj e
          exact result
        · exact fun result => result project rfl same
  · refine iff_of_false (fun result => resolvable ?_) fun both => resolvable both.1
    exact (Registration.areResolvable_put_iff ownResolvable _).1 (exists_resolvable_of_ok result)

/-- Registering a project has an effect on a file below its root, and below no longer one, exactly if the
file of the settings can be read, every registered root can be resolved, and the first registration of the
root is spelled as the new one, where there is any, or gives the same database. -/
theorem registeredDatabase_run_iff :
    let files : FileSystem := (run console env fs ["--add-project", root, database]).files
    let above : Text := Path.asDirectory (Path.absolute env root)
    ∃ s', Settings.load env files = (.ok s', files) ∧
      (registeredDatabase env files file s'.values.registered =
          .ok (some (Path.absolute env database)) ↔
        Settings.IsOpen env fs' s ∧ Registration.AreResolvable env projects ∧
        ∀ project, projects.find? (Registration.directory env ·.1 = above) = some project →
          project.1 ≠ Path.absolute env root →
          Registration.file? env files ⟨above, project.2⟩ =
            .ok (some (Path.absolute env database))) := by
  intro files above
  obtain ⟨grows, s', loaded', opened, closed⟩ := registered_run loaded found texts usable isFile exit
  refine ⟨s', loaded', ?_⟩
  by_cases isOpen : Settings.IsOpen env fs' s
  · rw [opened isOpen, and_iff_right isOpen]
    exact registeredDatabase_put_iff isFile covered innermost grows
  · have none : registeredDatabase env files file [] = .ok .none := rfl
    rw [closed isOpen, none]
    exact iff_of_false (by simp) fun all => isOpen all.1

end Effect

/-- A document with a project whose root is spelled with a slash at its end. -/
def homeDocument : String := "\x7b\"projects\": \x7b\"/p/\": \"/d\"\x7d\x7d"

/-- The settings of the document. -/
lemma load_homeDocument :
    Settings.load Settings.homeEnv (Settings.homeFiles (some homeDocument.toUTF8)) =
      (.ok (Settings.homeSettings [("/p/", .text "/d")]),
        Settings.homeFiles (some homeDocument.toUTF8)) :=
  Settings.load_homeFiles (by cbv)

/-- A console that shows texts as they are, as consoles do with texts that have no marks. -/
def plainConsole : Report.Console := ⟨.ok, .ok, fun _ => none⟩

/-- A project can be registered next to the one of the document. -/
lemma exit_run_homeDocument (root : Text) (normal : Path.IsNormal root)
    (separable : Json.IsSeparable root)
    (parsed : parse ["--add-project", root, "/e"] =
      .ok (.run { addProject := some (root, "/e") })) :
    (run plainConsole Settings.homeEnv (Settings.homeFiles (some homeDocument.toUTF8))
      ["--add-project", root, "/e"]).exit = .ok 0 := by
  have normal' : Path.IsNormal "/e" := ⟨rfl, by cbv⟩
  have writableDatabase : Json.IsWritable 988 (.text "/d") :=
    .scalar (Json.isSeparable_of_hasBytes (by decide) : Json.IsSeparable "/d")
  have writable : Json.IsWritable 989 (.object [("/p/", .text "/d")]) :=
    .object_of_forall (by decide) (by simp)
      (List.forall_mem_singleton.2 ⟨Json.isSeparable_of_hasBytes (by decide), writableDatabase⟩)
  obtain ⟨_, content, added⟩ := Settings.addProject_homeSettings (some homeDocument.toUTF8)
    writable separable (Json.isSeparable_of_hasBytes (by decide : Text.HasBytes "/e"))
  rw [run, parsed]
  dsimp only
  rw [perform, load_homeDocument]
  dsimp only
  rw [register, Path.locate_of_isLocatable (normal.isLocatable _),
    Path.locate_of_isLocatable (normal'.isLocatable _), Path.absolute_of_isNormal normal,
    Path.absolute_of_isNormal normal']
  dsimp only
  rw [added]
  rfl

/-- There are two files next to the document. -/
lemma isFile_homeFiles (document : Option ByteArray) :
    (Settings.homeFiles document).isFile Settings.homeEnv.cwd "/d" = true ∧
      (Settings.homeFiles document).isFile Settings.homeEnv.cwd "/e" = true := by
  constructor <;> cbv

/-- The document can be read. -/
lemma isOpen_homeDocument :
    Settings.IsOpen Settings.homeEnv (Settings.homeFiles (some homeDocument.toUTF8))
      (Settings.homeSettings [("/p/", .text "/d")]) :=
  FileSystem.isReadable_of_read (Settings.read_homeFiles _)

/-- The root of the document has a normal form. -/
lemma ofUser_homeDocument : Path.ofUser Settings.homeEnv "/p/" = .ok "/p" := by cbv

/-- A project whose root is not registered yet is registered with an effect. -/
theorem registeredDatabase_run_iff_homeDocument :
    let files := (run plainConsole Settings.homeEnv (Settings.homeFiles (some homeDocument.toUTF8))
      ["--add-project", "/q", "/e"]).files
    ∃ s', Settings.load Settings.homeEnv files = (.ok s', files) ∧
      registeredDatabase Settings.homeEnv files "/q/a.c" s'.values.registered =
        .ok (some "/e") := by
  intro files
  have exit := exit_run_homeDocument "/q" ⟨rfl, by cbv⟩ (Json.isSeparable_of_hasBytes (by decide))
    (by cbv)
  have covered : Path.covers (Path.asDirectory (Path.absolute Settings.homeEnv "/q")) "/q/a.c" =
      true := by cbv
  have innermost : Registration.IsInnermost Settings.homeEnv [("/p/", .text "/d")]
      (Path.asDirectory (Path.absolute Settings.homeEnv "/q")) "/q/a.c" := by
    refine List.forall_mem_singleton.2 fun root resolved covers => ?_
    obtain ⟨⟩ := ofUser_homeDocument.symm.trans resolved
    have uncovered : Path.covers (Path.asDirectory "/p") "/q/a.c" = false := by cbv
    exact absurd (uncovered.symm.trans covers) Bool.false_ne_true
  obtain ⟨s', loaded, effect⟩ := registeredDatabase_run_iff load_homeDocument rfl
    (List.forall_mem_singleton.2 ⟨"/d", rfl⟩) (by cbv) (isFile_homeFiles _).2 exit covered innermost
  refine ⟨s', loaded, effect.2 ⟨isOpen_homeDocument,
    List.forall_mem_singleton.2 ⟨_, ofUser_homeDocument⟩, fun project first => ?_⟩⟩
  have none : [(("/p/" : Text), Value.text "/d")].find?
      (Registration.directory Settings.homeEnv ·.1 =
        Path.asDirectory (Path.absolute Settings.homeEnv "/q")) = .none := by cbv
  exact absurd (none.symm.trans first) (Option.some_ne_none project).symm

/-- A project whose root is registered before in another spelling is registered without an effect. -/
theorem registeredDatabase_run_otherSpelling :
    let fs := Settings.homeFiles (some homeDocument.toUTF8)
    let outcome := run plainConsole Settings.homeEnv fs ["--add-project", "/p", "/e"]
    fs.isFile Settings.homeEnv.cwd "/e" = true ∧ outcome.exit = .ok 0 ∧
      ∃ s', Settings.load Settings.homeEnv outcome.files = (.ok s', outcome.files) ∧
        registeredDatabase Settings.homeEnv outcome.files "/p/a.c" s'.values.registered =
          .ok (some "/d") := by
  intro fs outcome
  have exit := exit_run_homeDocument "/p" ⟨rfl, by cbv⟩ (Json.isSeparable_of_hasBytes (by decide))
    (by cbv)
  obtain ⟨grows, s', loaded, opened, _⟩ := registered_run load_homeDocument rfl
    (List.forall_mem_singleton.2 ⟨"/d", rfl⟩) (by cbv) (isFile_homeFiles _).2 exit
  refine ⟨(isFile_homeFiles _).2, exit, s', loaded, ?_⟩
  rw [opened isOpen_homeDocument]
  have own : Path.absolute Settings.homeEnv "/p" = "/p" := by cbv
  have resolvable : Registration.AreResolvable Settings.homeEnv
      (OrderedMap.put "/p" (.text (Path.absolute Settings.homeEnv "/e")) [("/p/", .text "/d")]) :=
    (Registration.areResolvable_put_iff ⟨_, Path.ofUser_of_isNormal ⟨rfl, by cbv⟩⟩ _).2
      (List.forall_mem_singleton.2 ⟨_, ofUser_homeDocument⟩)
  have covered : Path.covers "/p/" "/p/a.c" = true := by cbv
  have innermost : Registration.IsInnermost Settings.homeEnv
      (OrderedMap.put "/p" (.text (Path.absolute Settings.homeEnv "/e")) [("/p/", .text "/d")])
      "/p/" "/p/a.c" := by
    refine Registration.IsInnermost.put (List.forall_mem_singleton.2 fun root resolved _ => ?_) _
      (by cbv)
    obtain ⟨⟩ := ofUser_homeDocument.symm.trans resolved
    cbv
  have first : (OrderedMap.put ("/p" : Text) (.text (Path.absolute Settings.homeEnv "/e"))
      [(("/p/" : Text), Value.text "/d")]).find? (Registration.directory Settings.homeEnv ·.1 = "/p/") =
        some (("/p/" : Text), Value.text "/d") := by cbv
  rw [own, registeredDatabase_eq resolvable covered innermost first]
  exact Registration.file?_of_isFile ⟨rfl, by cbv⟩
    (FileSystem.isFile_of_grows grows (isFile_homeFiles _).1) _

end Cli

end CompileFlags
