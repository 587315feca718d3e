import CompileFlags.Locate
import CompileFlags.Proofs.FileSystem.Tidy
import CompileFlags.Proofs.Path.Ancestors

/-!
# The nearest database

The search for a database goes up from a directory, parent by parent, until a directory has a regular
file of the name that is looked for (`findDatabase?_eq_of_climbs`). It comes to every directory on the way
once and ends at the root at the latest, whatever files there are, and what it finds is the nearest
database (`findDatabase?_climbs`). So it finds the same from each directory that it comes to.
-/

namespace CompileFlags

open CompileFlags.Path (parent IsNormal IsAncestor Climbs)

variable {env : Env} {fs : FileSystem} {start name d : Text}

/-- Whether a directory has a database of a given name. A name may have slashes, and an absolute one is
the same file in every directory. -/
def hasDatabase (env : Env) (fs : FileSystem) (name directory : Text) : Bool :=
  fs.isFile env.cwd (Path.join directory name)

/-- The search begins at a normal form. -/
lemma isNormal_searchDirectory (env : Env) (fs : FileSystem) (start : Text) :
    IsNormal (searchDirectory env fs start) := by
  have normal := Path.isNormal_absolute env start
  rw [searchDirectory]
  split
  · exact normal
  · exact normal.isNormal_parent

/-- From a directory in normal form, the search begins there. -/
lemma searchDirectory_of_isDirectory (normal : IsNormal d) (isDirectory : fs.isDirectory env.cwd d = true) :
    searchDirectory env fs d = d := by
  rw [searchDirectory, Path.absolute_of_isNormal normal]
  exact if_pos isDirectory

/-- What is found is the database of the directory that a search on the way up succeeds at. -/
lemma findDatabase?_eq_of_climbs {visited : List Text} {found : Option Text}
    (climbs : Climbs (hasDatabase env fs name) (searchDirectory env fs start) visited found) :
    findDatabase? env fs start name = found.map fun d => Path.tidy (Path.join d name) := by
  rw [findDatabase?, List.find?_map, climbs.eq_find? (isNormal_searchDirectory env fs start),
    Option.map_map]
  rfl

/-- From each directory that the search comes to it finds the same. -/
lemma findDatabase?_of_mem_visited {visited : List Text} {found : Option Text}
    (climbs : Climbs (hasDatabase env fs name) (searchDirectory env fs start) visited found)
    (mem : d ∈ visited) (isDirectory : fs.isDirectory env.cwd d = true) :
    findDatabase? env fs d name = findDatabase? env fs start name := by
  have normal := isNormal_searchDirectory env fs start
  have isAncestor := normal.mem_ancestors_iff.1 ((climbs.isPrefix_ancestors normal).subset mem)
  obtain ⟨visited', onward⟩ := climbs.of_mem mem
  rw [← searchDirectory_of_isDirectory isAncestor.isNormal isDirectory] at onward
  rw [findDatabase?_eq_of_climbs onward, findDatabase?_eq_of_climbs climbs]

/-- Where no project is registered, the search is all there is. It takes place if its start can be
located. -/
lemma locateDatabase_of_start (ne : start ≠ "") (file : Option Text) :
    locateDatabase env fs file (some start) [] (.text name) =
      if Path.isLocatable env start = true then .ok (findDatabase? env fs start name)
      else .error .noCurrentDirectory := by
  have kept : (some start).filter (· ≠ []) = some start := if_pos (decide_eq_true ne)
  have start_eq : searchStart file (some start) = start := by
    rw [searchStart, kept]
  have unregistered : registeredFor env fs file [] = .ok none := rfl
  rw [locateDatabase, unregistered, start_eq]

/-- The search begins at a path if that is a directory, else at its parent, and comes to an end. It comes
to one parent after the other, to none of them twice, and ends at the directory whose database is found,
or else at the root, after all directories that are the first one or above it. So it finds the first
database on the way up, and none exactly if there is none. From each directory that it comes to it finds
the same. A start that cannot be located is told before. -/
theorem findDatabase?_climbs (env : Env) (fs : FileSystem) (start name : Text) :
    let path := Path.absolute env start
    let origin := if fs.isDirectory env.cwd path then path else parent path
    let has := hasDatabase env fs name
    let database (d : Text) : Text := Path.tidy (Path.join d name)
    (∃ visited found, Climbs has origin visited found) ∧
    (∀ visited found, Climbs has origin visited found →
      findDatabase? env fs start name = found.map database ∧
      visited = List.iterate parent origin visited.length ∧ visited.Nodup ∧
      (∀ d, found = some d → visited.getLast? = some d ∧
        fs.status env.cwd (database d) = fs.status env.cwd (Path.join d name)) ∧
      (found = none → visited.getLast? = some (Path.root origin) ∧
        ∀ d, d ∈ visited ↔ IsAncestor d origin) ∧
      ∀ d ∈ visited, fs.isDirectory env.cwd d = true →
        findDatabase? env fs d name = findDatabase? env fs start name) ∧
    (∀ p, findDatabase? env fs start name = some p ↔
      ∃ n, p = database (parent^[n] origin) ∧ has (parent^[n] origin) = true ∧
        ∀ m < n, has (parent^[m] origin) = false) ∧
    (findDatabase? env fs start name = none ↔ ∀ d, IsAncestor d origin → has d = false) ∧
    ∀ file, start ≠ "" → locateDatabase env fs file (some start) [] (.text name) =
      if Path.isLocatable env start = true then .ok (findDatabase? env fs start name)
      else .error .noCurrentDirectory := by
  intro path origin has database
  have normal : IsNormal origin := isNormal_searchDirectory env fs start
  obtain ⟨visited, found, climbs⟩ := normal.exists_climbs has
  have found_eq : findDatabase? env fs start name = found.map database :=
    findDatabase?_eq_of_climbs climbs
  refine ⟨⟨visited, found, climbs⟩, ?_, ?_, ?_, fun file ne => locateDatabase_of_start ne file⟩
  · intro visited found climbs
    refine ⟨findDatabase?_eq_of_climbs climbs, climbs.visited_eq,
      (climbs.isPrefix_ancestors normal).sublist.nodup normal.nodup_ancestors, ?_, ?_, ?_⟩
    · rintro d rfl
      exact ⟨climbs.getLast?_eq, FileSystem.status_tidy climbs.success⟩
    · rintro rfl
      rw [climbs.eq_ancestors normal]
      exact ⟨normal.getLast?_ancestors, fun d => normal.mem_ancestors_iff⟩
    · exact fun d mem => findDatabase?_of_mem_visited climbs mem
  · intro p
    rw [found_eq, Option.map_eq_some_iff]
    constructor
    · rintro ⟨d, success, rfl⟩
      obtain ⟨n, rfl, nearest⟩ := climbs.eq_some_iff.1 success
      exact ⟨n, rfl, nearest⟩
    · rintro ⟨n, rfl, nearest⟩
      exact ⟨_, climbs.eq_some_iff.2 ⟨n, rfl, nearest⟩, rfl⟩
  · rw [found_eq, Option.map_eq_none_iff, climbs.eq_find? normal, List.find?_eq_none]
    simp only [normal.mem_ancestors_iff, Bool.not_eq_true]

/-- A search may start below a directory that is missing. A directory of the name that is looked for is
no database. -/
theorem findDatabase?_climbs_missingDirectory :
    let env : Env := { home := "/", cwd := ⟨["p", "q"], 0⟩, clock := 0 }
    let fs : FileSystem := { nodes := [(["p"], .directory), (["p", "q"], .directory),
      (["p", "q", "db"], .directory), (["p", "db"], .file .empty)] }
    fs.isDirectory env.cwd "/p/q/x" = false ∧
      Climbs (hasDatabase env fs "db") "/p/q/x" ["/p/q/x", "/p/q", "/p"] (some "/p") ∧
      findDatabase? env fs "x/y.c" "db" = some "/p/db" ∧
      findDatabase? env fs "/p/q" "db" = some "/p/db" ∧
      locateDatabase env fs none (some "x/y.c") [] (.text "db") = .ok (some "/p/db") ∧
      findDatabase? env fs "//p" "none" = none := by
  intro env fs
  have climbs : Climbs (hasDatabase env fs "db") "/p/q/x" ["/p/q/x", "/p/q", "/p"] (some "/p") :=
    .up (by decide +kernel) (by decide +kernel)
      (.up (by decide +kernel) (by decide +kernel) (.here (by decide +kernel)))
  obtain ⟨_, ofClimbs, _, _, located⟩ := findDatabase?_climbs env fs "x/y.c" "db"
  have origin_eq : (if fs.isDirectory env.cwd (Path.absolute env "x/y.c") = true
      then Path.absolute env "x/y.c" else parent (Path.absolute env "x/y.c")) = "/p/q/x" := by
    decide +kernel
  rw [origin_eq] at ofClimbs
  obtain ⟨found, _, _, _, _, again⟩ := ofClimbs _ _ climbs
  have database_eq : Path.tidy (Path.join "/p" "db") = "/p/db" := by decide +kernel
  rw [Option.map_some, database_eq] at found
  have nested := (again "/p/q" (by decide +kernel) (by decide +kernel)).trans found
  have start_eq := located none (by decide)
  rw [found] at start_eq
  exact ⟨by decide +kernel, climbs, found, nested, start_eq, by decide +kernel⟩

end CompileFlags
