import CompileFlags.Proofs.FileSystem.Obstacles
import CompileFlags.Proofs.NearestDirectory
import CompileFlags.Proofs.Registration

/-!
# The nearest registered root

Roots are compared as texts with a slash at their end, and the longest text that begins the file decides.
That comes to comparing names: a root is above a file if its names are a proper beginning of those of the
file (`Path.IsNormal.covers_iff_names`), and the longest text is the one with the most names
(`Path.IsNormal.length_le_iff_names`). So of all projects above a file one decides, whatever their order
(`Registration.Decides`), and if its database is no file no other one is asked.
-/

namespace CompileFlags

open CompileFlags.Path (asDirectory covers IsNormal)

variable {env : Env} {fs : FileSystem} {file above other : Text}

namespace Path

namespace Absolute

variable {a b : Absolute}

/-- With a slash at its end, one directory begins another below the same root exactly if its names do. -/
lemma IsProper.asDirectory_isPrefix_iff (properA : a.IsProper) (properB : b.IsProper)
    (same : a.doubled = b.doubled) : asDirectory a.text <+: asDirectory b.text ↔ a.names <+: b.names := by
  have trails := trail_isPrefix_iff properA.no_slash properB.no_slash List.not_mem_nil
  rw [List.append_nil] at trails
  rw [properA.asDirectory_text, properB.asDirectory_text, start, start, same,
    List.prefix_append_right_inj, trails]

/-- Going up takes names away, if there are any. -/
lemma names_up_succ_ne (ne : b.names ≠ []) (n : Nat) : (b.up (n + 1)).names ≠ b.names := by
  intro e
  have length_eq := congrArg List.length e
  rw [up, List.length_take] at length_eq
  have pos := List.length_pos_of_ne_nil ne
  omega

end Absolute

lemma IsNormal.names_ne_nil (normal : IsNormal file) (single : ¬ ("//" : Text) <+: file)
    (below : file ≠ "/") : Database.names file ≠ [] := by
  obtain ⟨b, proper, rfl⟩ := isNormal_iff.1 normal
  intro none
  apply below
  rw [Database.names, proper.ofText_text] at none
  rw [Absolute.text, none, proper.doubled_eq_false_iff.2 single]
  rfl

/-- A directory begins a file, with a slash at its end, exactly if it is below the single root and its
names are a proper beginning of those of the file. -/
lemma IsNormal.covers_iff_names (normalAbove : IsNormal above) (normal : IsNormal file)
    (single : ¬ ("//" : Text) <+: file) (below : file ≠ "/") :
    covers (asDirectory above) file = true ↔
      ¬ ("//" : Text) <+: above ∧ Database.names above <+: Database.names file ∧
        Database.names above ≠ Database.names file := by
  have ne := normal.names_ne_nil single below
  obtain ⟨a, properA, rfl⟩ := isNormal_iff.1 normalAbove
  obtain ⟨b, properB, rfl⟩ := isNormal_iff.1 normal
  have singleB := properB.doubled_eq_false_iff.2 single
  have singleA : a.doubled = false ↔ ¬ ("//" : Text) <+: a.text := properA.doubled_eq_false_iff
  rw [Database.names, properB.ofText_text] at ne
  rw [properA.covers_iff_up properB singleB, ← singleA, Database.names, Database.names,
    properA.ofText_text, properB.ofText_text]
  constructor
  · rintro ⟨n, rfl⟩
    exact ⟨singleB, Absolute.names_up_isPrefix b (n + 1), Absolute.names_up_succ_ne ne n⟩
  · rintro ⟨singleA, begins, proper⟩
    obtain ⟨n, rfl⟩ := Absolute.exists_eq_up (singleA.trans singleB.symm) begins
    cases n with
    | zero =>
      rw [Absolute.up, Nat.sub_zero, List.take_length] at proper
      exact absurd rfl proper
    | succ n => exact ⟨n, rfl⟩

/-- Of two directories that cover a file, the longer one has more names. -/
lemma IsNormal.length_le_iff_names (normalAbove : IsNormal above) (normalOther : IsNormal other)
    (normal : IsNormal file) (single : ¬ ("//" : Text) <+: file)
    (coversAbove : covers (asDirectory above) file = true)
    (coversOther : covers (asDirectory other) file = true) :
    (asDirectory other).length ≤ (asDirectory above).length ↔
      (Database.names other).length ≤ (Database.names above).length := by
  obtain ⟨a, properA, rfl⟩ := isNormal_iff.1 normalAbove
  obtain ⟨c, properC, rfl⟩ := isNormal_iff.1 normalOther
  obtain ⟨b, properB, rfl⟩ := isNormal_iff.1 normal
  have singleB := properB.doubled_eq_false_iff.2 single
  obtain ⟨m, rfl⟩ := (properA.covers_iff_up properB singleB).1 coversAbove
  obtain ⟨n, rfl⟩ := (properC.covers_iff_up properB singleB).1 coversOther
  have prefix_iff := properC.asDirectory_isPrefix_iff properA rfl
  rw [Database.names, Database.names, properA.ofText_text, properC.ofText_text]
  constructor
  · intro le
    exact (prefix_iff.1 (isPrefix_of_covers coversOther coversAbove le)).length_le
  · intro le
    have begins := List.prefix_of_prefix_length_le (Absolute.names_up_isPrefix b (n + 1))
      (Absolute.names_up_isPrefix b (m + 1)) le
    exact (prefix_iff.2 begins).length_le

/-- Directories below the single root are known by their names. -/
lemma IsNormal.eq_of_names_eq (normalAbove : IsNormal above) (normalOther : IsNormal other)
    (single : ¬ ("//" : Text) <+: above) (single' : ¬ ("//" : Text) <+: other)
    (same : Database.names above = Database.names other) : above = other := by
  obtain ⟨a, properA, rfl⟩ := isNormal_iff.1 normalAbove
  obtain ⟨c, properC, rfl⟩ := isNormal_iff.1 normalOther
  have doubledA := properA.doubled_eq_false_iff.2 single
  have doubledC := properC.doubled_eq_false_iff.2 single'
  rw [Database.names, Database.names, properA.ofText_text, properC.ofText_text] at same
  rw [Absolute.text, Absolute.text, doubledA, doubledC, same]

end Path

namespace Registration

open CompileFlags.Database (names)

variable {projects others : List (Text × Text)} {project : Text × Text}

/-- Projects whose databases are texts, as they are registered. -/
def ofTexts (projects : List (Text × Text)) : List (Text × Value) :=
  projects.map fun project => (project.1, .text project.2)

/-- The normal form of a root. -/
def place (env : Env) (root : Text) : Text := Path.absolute env (Path.expandHome env root)

lemma isNormal_place (env : Env) (root : Text) : IsNormal (place env root) :=
  Path.isNormal_absolute env (Path.expandHome env root)

/-- Whether a root is that of a directory above a file. -/
structure IsAbove (env : Env) (file root : Text) : Prop where
  single : ¬ ("//" : Text) <+: place env root
  begins : names (place env root) <+: names file
  proper : names (place env root) ≠ names file

instance (env : Env) (file root : Text) : Decidable (IsAbove env file root) :=
  decidable_of_iff (¬ ("//" : Text) <+: place env root ∧ names (place env root) <+: names file ∧
    names (place env root) ≠ names file)
    ⟨fun ⟨single, begins, proper⟩ => ⟨single, begins, proper⟩,
      fun ⟨single, begins, proper⟩ => ⟨single, begins, proper⟩⟩

/-- Whether a project decides for a file: its root is above the file, none that is has more names, and
it is the first project of its root. -/
structure Decides (env : Env) (file : Text) (projects : List (Text × Text)) (project : Text × Text) :
    Prop where
  isAbove : IsAbove env file project.1
  deepest : ∀ other ∈ projects, IsAbove env file other.1 →
    (names (place env other.1)).length ≤ (names (place env project.1)).length
  first : projects.find? (place env ·.1 = place env project.1) = some project

instance (env : Env) (file : Text) (projects : List (Text × Text)) (project : Text × Text) :
    Decidable (Decides env file projects project) :=
  decidable_of_iff (IsAbove env file project.1 ∧
    (∀ other ∈ projects, IsAbove env file other.1 →
      (names (place env other.1)).length ≤ (names (place env project.1)).length) ∧
    projects.find? (place env ·.1 = place env project.1) = some project)
    ⟨fun ⟨isAbove, deepest, first⟩ => ⟨isAbove, deepest, first⟩,
      fun ⟨isAbove, deepest, first⟩ => ⟨isAbove, deepest, first⟩⟩

/-- The path of the database of a project: its home directory replaced, and taken from the root if it is
relative. -/
def databasePath (env : Env) (project : Text × Text) : Text :=
  Path.tidy (Path.join (directory env project.1) (Path.expandHome env project.2))

lemma Decides.mem (decides : Decides env file projects project) : project ∈ projects :=
  List.mem_of_find?_eq_some decides.first

lemma Decides.unique {project' : Text × Text} (decides : Decides env file projects project)
    (decides' : Decides env file projects project') : project' = project := by
  have length_eq : (names (place env project.1)).length = (names (place env project'.1)).length :=
    Nat.le_antisymm (decides'.deepest _ decides.mem decides.isAbove)
      (decides.deepest _ decides'.mem decides'.isAbove)
  -- two beginnings of one length are the same
  have begins := List.prefix_of_prefix_length_le decides.isAbove.begins decides'.isAbove.begins
    length_eq.le
  have same : place env project.1 = place env project'.1 :=
    (isNormal_place env project.1).eq_of_names_eq (isNormal_place env project'.1)
      decides.isAbove.single decides'.isAbove.single (begins.eq_of_length length_eq)
  have first := decides.first
  rw [same, decides'.first] at first
  exact Option.some.inj first

/-- Of the projects of one root there is a first. -/
lemma exists_first (env : Env) (mem : project ∈ projects) :
    ∃ first, projects.find? (place env ·.1 = place env project.1) = some first ∧
      place env first.1 = place env project.1 := by
  have there : (projects.find? (place env ·.1 = place env project.1)).isSome = true := by
    rw [List.find?_isSome]
    exact ⟨project, mem, decide_eq_true rfl⟩
  obtain ⟨first, found⟩ := Option.isSome_iff_exists.1 there
  have same : place env first.1 = place env project.1 := by simpa using List.find?_some found
  exact ⟨first, found, same⟩

/-- Where every root is that of one project, the order of the projects makes no difference. -/
lemma Decides.perm (perm : projects.Perm others) (distinct : (projects.map (place env ·.1)).Nodup)
    (decides : Decides env file projects project) : Decides env file others project := by
  refine ⟨decides.isAbove, ?_, ?_⟩
  · intro other mem
    exact decides.deepest other (perm.mem_iff.2 mem)
  · obtain ⟨found, first, same⟩ := exists_first env (perm.mem_iff.1 decides.mem)
    have mem := perm.mem_iff.2 (List.mem_of_find?_eq_some first)
    rw [first, List.inj_on_of_nodup_map distinct mem decides.mem same]

section Below

variable (normal : IsNormal file) (single : ¬ ("//" : Text) <+: file) (below : file ≠ "/")

include normal single below

lemma covers_iff_isAbove (env : Env) (root : Text) :
    covers (directory env root) file = true ↔ IsAbove env file root := by
  refine ((isNormal_place env root).covers_iff_names normal single below).trans ⟨?_, ?_⟩
  · rintro ⟨single, begins, proper⟩
    exact ⟨single, begins, proper⟩
  · rintro ⟨single, begins, proper⟩
    exact ⟨single, begins, proper⟩

/-- Of two roots above a file, the longer directory has more names. -/
lemma length_directory_le_iff {root other : Text} (isAbove : IsAbove env file root)
    (isAbove' : IsAbove env file other) :
    (directory env other).length ≤ (directory env root).length ↔
      (names (place env other)).length ≤ (names (place env root)).length := by
  have covers_iff := covers_iff_isAbove normal single below env
  exact (isNormal_place env root).length_le_iff_names (isNormal_place env other) normal single
    ((covers_iff root).2 isAbove) ((covers_iff other).2 isAbove')

lemma exists_decides (above : ∃ project ∈ projects, IsAbove env file project.1) :
    ∃ project, Decides env file projects project := by
  have covers_iff := covers_iff_isAbove normal single below env
  cases nearest : Path.nearest? (fun project : Text × Text => directory env project.1) file
      projects with
  | none =>
    obtain ⟨project, mem, isAbove⟩ := above
    have uncovered := Path.nearest?_eq_none_iff.1 nearest project mem
    exact absurd ((covers_iff project.1).2 isAbove) (by simp [uncovered])
  | some longest =>
    -- another project of the same root may come first
    have covered := Path.covers_of_nearest? nearest
    have isAbove := (covers_iff longest.1).1 covered
    obtain ⟨project, first, same⟩ := exists_first env (Path.mem_of_nearest? nearest)
    refine ⟨project, ?_, ?_, ?_⟩
    · obtain ⟨single, begins, proper⟩ := isAbove
      exact ⟨same ▸ single, same ▸ begins, same ▸ proper⟩
    · intro other mem isAbove'
      rw [same, ← length_directory_le_iff normal single below isAbove isAbove']
      exact Path.length_le_of_nearest? nearest mem ((covers_iff other.1).2 isAbove')
    · rw [same]
      exact first

end Below

/-- A root that cannot be resolved ends the search for a project. -/
lemma registeredDatabase_of_unresolvable (unresolvable : ¬ AreResolvable env (ofTexts projects)) :
    ∃ fault, registeredDatabase env fs file (entriesOf (ofTexts projects)) = .error fault ∧
      ∃ project ∈ projects, Path.ofUser env project.1 = .error fault := by
  obtain ⟨fault, failed, _, mem, faulty⟩ := mapM_ofEntry_error unresolvable
  obtain ⟨project, there, rfl⟩ := List.mem_map.1 mem
  refine ⟨fault, ?_, project, there, faulty⟩
  rw [registeredDatabase, failed]

/-- Why a project is not served, whether or not its database is a file: the user in the path of the
database cannot be looked up, or there is an obstacle on the way to it. -/
inductive Obstructs (env : Env) (fs : FileSystem) (project : Text × Text) : AccessFault → Prop where
  | home {fault : AccessFault} (unknown : Path.homeFault? project.2 = some fault) :
    Obstructs env fs project fault
  | way {e : SystemError} (known : Path.homeFault? project.2 = none)
    (blocked : fs.IsBlocked env.cwd (databasePath env project) e) :
    Obstructs env fs project (.system e (databasePath env project))

section

variable {root database : Text} {fault : AccessFault} {found : Option Node}

/-- A database in the home directory of a user that cannot be looked up is not served. -/
lemma file?_of_home (unknown : Path.homeFault? database = some fault) :
    file? env fs ⟨root, .text database⟩ = .error (.access fault) := by
  rw [file?]
  dsimp only
  rw [unknown]

variable (known : Path.homeFault? database = none)

include known

/-- A database that cannot be looked at is not served. -/
lemma file?_of_probe_error
    (failed : fs.probe env.cwd (path env ⟨root, .text database⟩ database) = .error fault) :
    file? env fs ⟨root, .text database⟩ = .error (.access fault) := by
  rw [file?]
  dsimp only
  rw [known, failed]

/-- Any other database is served if it is a file. -/
lemma file?_of_probe (probed : fs.probe env.cwd (path env ⟨root, .text database⟩ database) = .ok found) :
    file? env fs ⟨root, .text database⟩ =
      .ok (if fs.isFile env.cwd (path env ⟨root, .text database⟩ database) then
        some (path env ⟨root, .text database⟩ database) else none) := by
  rw [file?]
  dsimp only
  rw [known, probed]
  by_cases isFile : fs.isFile env.cwd (path env ⟨root, .text database⟩ database) = true
  · obtain ⟨content, status_eq⟩ := FileSystem.isFile_iff.1 isFile
    obtain rfl := Except.ok.inj (probed.symm.trans (FileSystem.probe_of_status status_eq))
    rw [if_pos isFile]
  · rw [if_neg isFile]
    cases found with
    | none => rfl
    | some node =>
      cases node with
      | file content =>
        exact absurd (FileSystem.isFile_iff.2 ⟨content, FileSystem.status_of_probe probed⟩) isFile
      | _ => rfl

end

/-- A database is served if it is a file, exactly if nothing stands against it. -/
lemma file?_directory_iff (project : Text × Text) :
    let database := databasePath env project
    let answer := file? env fs ⟨directory env project.1, .text project.2⟩
    (answer = .ok (if fs.isFile env.cwd database then some database else none) ↔
      ∀ fault, ¬ Obstructs env fs project fault) ∧
    ∀ fault, Obstructs env fs project fault → answer = .error (.access fault) := by
  intro database answer
  cases home : Path.homeFault? project.2 with
  | some fault =>
    have failed : answer = .error (.access fault) := file?_of_home home
    refine ⟨iff_of_false (by simp [failed]) (not_forall_not.2 ⟨fault, .home home⟩), ?_⟩
    rintro _ (unknown | ⟨known, _⟩)
    · rw [failed, Option.some.inj (home.symm.trans unknown)]
    · exact absurd (home.symm.trans known) (by simp)
  | none =>
    have blocked_of {fault : AccessFault} (obstructs : Obstructs env fs project fault) :
        fs.probe env.cwd database = .error fault := by
      obtain unknown | ⟨_, blocked⟩ := obstructs
      · exact absurd (home.symm.trans unknown) (by simp)
      · exact FileSystem.probe_eq_error_iff.2 ⟨_, rfl, blocked⟩
    cases probed : fs.probe env.cwd database with
    | error fault =>
      have failed : answer = .error (.access fault) := file?_of_probe_error home probed
      obtain ⟨e, rfl, blocked⟩ := FileSystem.probe_eq_error_iff.1 probed
      refine ⟨iff_of_false (by simp [failed]) (not_forall_not.2 ⟨_, .way home blocked⟩), ?_⟩
      intro fault obstructs
      rw [failed, Except.error.inj (probed.symm.trans (blocked_of obstructs))]
    | ok found =>
      have free (fault : AccessFault) : ¬ Obstructs env fs project fault :=
        fun obstructs => absurd (probed.symm.trans (blocked_of obstructs)) (by simp)
      exact ⟨iff_of_true (file?_of_probe home probed) free,
        fun fault obstructs => absurd obstructs (free fault)⟩

section Served

variable (normal : IsNormal file) (single : ¬ ("//" : Text) <+: file) (below : file ≠ "/")
  (resolvable : AreResolvable env (ofTexts projects))

include normal single below resolvable

lemma registeredDatabase_of_none (none : ∀ project ∈ projects, ¬ IsAbove env file project.1) :
    registeredDatabase env fs file (entriesOf (ofTexts projects)) = .ok .none := by
  rw [registeredDatabase, mapM_ofEntry resolvable]
  dsimp only
  have nearest : Path.nearest? Registration.root file ((ofTexts projects).map fun project =>
      ⟨directory env project.1, project.2⟩) = .none := by
    rw [Path.nearest?_eq_none_iff]
    intro registration mem
    obtain ⟨_, registered, rfl⟩ := List.mem_map.1 mem
    obtain ⟨project, there, rfl⟩ := List.mem_map.1 registered
    rw [← Bool.not_eq_true, covers_iff_isAbove normal single below]
    exact none project there
  rw [nearest]

lemma registeredDatabase_of_decides (decides : Decides env file projects project) :
    registeredDatabase env fs file (entriesOf (ofTexts projects)) =
      file? env fs ⟨directory env project.1, .text project.2⟩ := by
  have covers_iff := covers_iff_isAbove normal single below env
  have innermost : IsInnermost env (ofTexts projects) (directory env project.1) file := by
    intro entry mem root resolved covered
    obtain ⟨other, there, rfl⟩ := List.mem_map.1 mem
    rw [← directory_of_ofUser resolved] at covered ⊢
    have isAbove := (covers_iff other.1).1 covered
    exact (length_directory_le_iff normal single below decides.isAbove isAbove).2
      (decides.deepest other there isAbove)
  have first : (ofTexts projects).find? (directory env ·.1 = directory env project.1) =
      some (project.1, .text project.2) := by
    -- roots are the same as directories exactly if they are as places
    have same (other : Text × Text) : directory env other.1 = directory env project.1 ↔
        place env other.1 = place env project.1 :=
      (isNormal_place env other.1).isTrimmed.asDirectory_inj (isNormal_place env project.1).isTrimmed
    have first := decides.first
    simp only [← same] at first
    rw [ofTexts, List.find?_map]
    exact congrArg (Option.map _) first
  exact registeredDatabase_eq resolvable ((covers_iff _).2 decides.isAbove) innermost first

end Served

/-- Where every root is that of one project, a file is served the same whatever their order. -/
lemma registeredDatabase_of_perm (normal : IsNormal file) (single : ¬ ("//" : Text) <+: file)
    (below : file ≠ "/") (resolvable : AreResolvable env (ofTexts projects))
    (perm : projects.Perm others) (distinct : (projects.map (place env ·.1)).Nodup) :
    registeredDatabase env fs file (entriesOf (ofTexts others)) =
      registeredDatabase env fs file (entriesOf (ofTexts projects)) := by
  have permTexts : (ofTexts projects).Perm (ofTexts others) := perm.map _
  have resolvable' : AreResolvable env (ofTexts others) :=
    fun entry mem => resolvable entry (permTexts.mem_iff.2 mem)
  by_cases above : ∃ project ∈ projects, IsAbove env file project.1
  · obtain ⟨project, decides⟩ := exists_decides normal single below above
    have decides' := decides.perm perm distinct
    rw [registeredDatabase_of_decides normal single below resolvable decides,
      registeredDatabase_of_decides normal single below resolvable' decides']
  · have none : ∀ project ∈ projects, ¬ IsAbove env file project.1 :=
      fun project mem isAbove => above ⟨project, mem, isAbove⟩
    have none' : ∀ project ∈ others, ¬ IsAbove env file project.1 :=
      fun project mem => none project (perm.mem_iff.2 mem)
    rw [registeredDatabase_of_none normal single below resolvable none,
      registeredDatabase_of_none normal single below resolvable' none']

/-- The database of a file in normal form: the registered one, or else what is found from where the
search starts. -/
lemma locateDatabase_eq (normal : IsNormal file) (start : Option Text) (name : Text)
    (entries : List (Scalar × Value)) :
    locateDatabase env fs (some file) start entries (.text name) =
      match registeredDatabase env fs file entries with
      | .ok none =>
        if Path.isLocatable env ((start.filter (· ≠ [])).getD file) = true then
          .ok (findDatabase? env fs ((start.filter (· ≠ [])).getD file) name)
        else .error .noCurrentDirectory
      | other => other := by
  have registered : registeredFor env fs (some file) entries =
      registeredDatabase env fs file entries := by
    rw [registeredFor]
    cases entries with
    | nil => rfl
    | cons entry entries =>
      rw [List.isEmpty_cons, if_neg Bool.false_ne_true]
      rw [Path.locate_of_isLocatable (normal.isLocatable env), Path.absolute_of_isNormal normal]
  have start_eq : searchStart (some file) start = (start.filter (· ≠ [])).getD file := by
    have ne : file ≠ [] := Path.ne_nil_of_isAbsolute normal.absolute
    have named : (some file).filter (· ≠ []) = some file := by
      rw [Option.filter_some, if_pos (decide_eq_true ne)]
    rw [searchStart, named]
    cases start.filter (· ≠ []) with
    | none => rfl
    | some start => rfl
  rw [locateDatabase, registered, start_eq]
  cases registeredDatabase env fs file entries with
  | error fault => rfl
  | ok found =>
    cases found with
    | none => rfl
    | some path => rfl

/-- Of the projects whose roots are above a file one decides, and its database is served if it is a file,
or else none; no other project is asked. This is so exactly if the user in the path of that database can be
looked up and there is no obstacle on the way to it, for then the search fails. If every root is that of one
project, their order makes no difference. A root that cannot be resolved ends the search. A file that no
project serves has the database that is found from the start of the search. -/
theorem registeredDatabase_eq_of_decides (env : Env) (fs : FileSystem) (normal : IsNormal file)
    (single : ¬ ("//" : Text) <+: file) (below : file ≠ "/") (projects : List (Text × Text)) :
    let served (projects : List (Text × Text)) : Except Fault (Option Text) :=
      registeredDatabase env fs file (entriesOf (ofTexts projects))
    (¬ AreResolvable env (ofTexts projects) →
      ∃ fault, served projects = .error fault ∧
        ∃ project ∈ projects, Path.ofUser env project.1 = .error fault) ∧
    (AreResolvable env (ofTexts projects) →
      ((∀ project ∈ projects, ¬ IsAbove env file project.1) → served projects = .ok none) ∧
      ((∃ project ∈ projects, IsAbove env file project.1) →
        ∃! project, Decides env file projects project) ∧
      (∀ project, Decides env file projects project →
        let database := databasePath env project
        (served projects = .ok (if fs.isFile env.cwd database then some database else none) ↔
          ∀ fault, ¬ Obstructs env fs project fault) ∧
        ∀ fault, Obstructs env fs project fault → served projects = .error (.access fault)) ∧
      ∀ others, projects.Perm others → (projects.map (place env ·.1)).Nodup →
        served others = served projects) ∧
    ∀ start name,
      locateDatabase env fs (some file) start (entriesOf (ofTexts projects)) (.text name) =
        match served projects with
        | .ok none =>
          if Path.isLocatable env ((start.filter (· ≠ [])).getD file) = true then
            .ok (findDatabase? env fs ((start.filter (· ≠ [])).getD file) name)
          else .error .noCurrentDirectory
        | other => other := by
  intro served
  refine ⟨registeredDatabase_of_unresolvable, ?_, ?_⟩
  · intro resolvable
    refine ⟨registeredDatabase_of_none normal single below resolvable, ?_, ?_, ?_⟩
    · intro above
      obtain ⟨project, decides⟩ := exists_decides normal single below above
      exact ⟨project, decides, fun _ => decides.unique⟩
    · intro project decides database
      -- only the database of the project that decides is looked at, so what is left is about that one file
      have served_eq : served projects = _ :=
        registeredDatabase_of_decides normal single below resolvable decides
      rw [served_eq]
      exact file?_directory_iff project
    · intro others perm distinct
      exact registeredDatabase_of_perm normal single below resolvable perm distinct
  · intro start name
    exact locateDatabase_eq normal start name _

/-- A project whose database is missing decides, although a root farther up has one, and a root of the
same names at two slashes is above no such file. The order makes no difference. -/
theorem registeredDatabase_eq_none_of_missing :
    let env : Env := { home := "/h", cwd := ⟨["w"], 0⟩, clock := 0 }
    let fs : FileSystem := { nodes := [(["d"], .file .empty), (["p"], .directory), (["p", "q"], .directory)] }
    let file : Text := "/p/q/s/a.c"
    let projects : List (Text × Text) := [("/p", "/d"), ("/p/./q/", "rel.json"), ("//p/q/s", "/d")]
    IsNormal file ∧ (¬ ("//" : Text) <+: file) ∧ file ≠ "/" ∧
      Decides env file projects ("/p/./q/", "rel.json") ∧ fs.isFile env.cwd "/d" = true ∧
      registeredDatabase env fs file (entriesOf (ofTexts projects)) = .ok none ∧
      registeredDatabase env fs file (entriesOf (ofTexts projects.reverse)) = .ok none ∧
      locateDatabase env fs (some file) none (entriesOf (ofTexts projects)) (.text "d") =
        .ok (some "/d") := by
  intro env fs file projects
  have normal : IsNormal file := ⟨rfl, by decide +kernel⟩
  have single : ¬ ("//" : Text) <+: file := by decide
  have decides : Decides env file projects ("/p/./q/", "rel.json") := by decide +kernel
  have missing : fs.isFile env.cwd (databasePath env ("/p/./q/", "rel.json")) = false := by
    decide +kernel
  have probed : fs.probe env.cwd (databasePath env ("/p/./q/", "rel.json")) = .ok none := by
    decide +kernel
  have known : Path.homeFault? "rel.json" = none := by decide +kernel
  have free (fault : AccessFault) : ¬ Obstructs env fs ("/p/./q/", "rel.json") fault := by
    rintro (unknown | ⟨_, blocked⟩)
    · exact absurd (known.symm.trans unknown) (by simp)
    · exact absurd (probed.symm.trans (FileSystem.probe_eq_error_iff.2 ⟨_, rfl, blocked⟩)) (by simp)
  have resolvable : AreResolvable env (ofTexts projects) := by
    refine List.forall_mem_cons.2 ⟨⟨"/p", by cbv⟩, List.forall_mem_cons.2 ⟨⟨"/p/q", by cbv⟩, ?_⟩⟩
    exact List.forall_mem_singleton.2 ⟨"//p/q/s", by cbv⟩
  have distinct : (projects.map (place env ·.1)).Nodup := by decide +kernel
  obtain ⟨_, served, located⟩ :=
    registeredDatabase_eq_of_decides env fs normal single (by decide) projects
  obtain ⟨_, _, decided, reordered⟩ := served resolvable
  have served_eq := (decided _ decides).1.2 free
  rw [missing, if_neg Bool.false_ne_true] at served_eq
  refine ⟨normal, single, by decide, decides, by decide +kernel, served_eq, ?_, ?_⟩
  · exact (reordered projects.reverse projects.reverse_perm.symm distinct).trans served_eq
  · rw [located, served_eq]
    decide +kernel

/-- The search fails if the database that is registered has a name of 256 characters. There is no such
file, so none should be served. -/
theorem registeredDatabase_of_longName :
    let env : Env := { home := "/tmp/cdbo/home", cwd := ⟨["tmp", "cdbo", "w"], 0⟩, clock := 0 }
    let fs : FileSystem := { nodes := [(["tmp"], .directory), (["tmp", "cdbo"], .directory),
      (["tmp", "cdbo", "w"], .directory)] }
    let file : Text := "/tmp/cdbo/w/a.c"
    let project : Text × Text := ("/tmp/cdbo/w", List.replicate 256 (.char 'a'))
    IsNormal file ∧ (¬ ("//" : Text) <+: file) ∧ file ≠ "/" ∧ Decides env file [project] project ∧
      fs.isFile env.cwd (databasePath env project) = false ∧
      registeredDatabase env fs file (entriesOf (ofTexts [project])) =
        .error (.access (.system .nameTooLong (databasePath env project))) := by
  intro env fs file project
  have normal : IsNormal file := ⟨rfl, by decide +kernel⟩
  have single : ¬ ("//" : Text) <+: file := by decide
  have decides : Decides env file [project] project := by decide +kernel
  have blocked : fs.IsBlocked env.cwd (databasePath env project) .nameTooLong :=
    ⟨.nameTooLong, by decide +kernel⟩
  have root : Path.ofUser env "/tmp/cdbo/w" = .ok "/tmp/cdbo/w" := by cbv
  have resolvable : AreResolvable env (ofTexts [project]) := List.forall_mem_singleton.2 ⟨_, root⟩
  have known : Path.homeFault? (List.replicate 256 (.char 'a')) = none := by
    rw [List.replicate_succ]
    rfl
  refine ⟨normal, single, by decide, decides, by decide +kernel, ?_⟩
  rw [registeredDatabase_of_decides normal single (by decide) resolvable decides]
  exact (file?_directory_iff project).2 _ (.way known blocked)

end Registration

end CompileFlags
