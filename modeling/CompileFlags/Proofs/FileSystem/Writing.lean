import CompileFlags.Proofs.FileSystem.Growth

/-!
# Writing files and making directories

Writing a file and making a directory take nothing away (`FileSystem.grows_update`,
`FileSystem.grows_ensureDirectories`); where directories are made, no file is touched
(`FileSystem.gainsDirectories_ensureDirectories`). What is written to a path can be read from it
(`FileSystem.read_write`), and a directory that has been made is there to stay
(`FileSystem.ensureDirectories_of_grows`).
-/

namespace CompileFlags

namespace FileSystem

variable {fs fs' fs'' : FileSystem} {cwd : CurrentDirectory} {p : Text} {loc : Location} {node : Node}

/-- What is changed where a file is written: a file is made where nothing is yet, or gets a new content.
-/
lemma update_cases {f : ByteArray → ByteArray} (updated : fs.update cwd p f = .ok fs') :
    (∃ loc, fs.goal cwd p .writing = .ok (.absent loc) ∧ fs.node? loc = none ∧
      fs' = fs.make loc (.file (f .empty))) ∨
    ∃ loc old, fs.goal cwd p .writing = .ok (.present loc) ∧ fs.node? loc = some (.file old) ∧
      fs.refusal? loc .write = none ∧ fs' = fs.set loc (.file (f old)) := by
  rw [update] at updated
  split at updated
  · exact absurd updated (by simp)
  · exact absurd updated (by simp)
  · rename_i loc found
    split at updated
    · exact absurd updated (by simp)
    · obtain ⟨⟩ := updated
      exact .inl ⟨loc, found, node?_of_goal_absent found, rfl⟩
  · rename_i loc found
    split at updated
    · exact absurd updated (by simp)
    · rename_i old there writable
      obtain ⟨⟩ := updated
      exact .inr ⟨loc, old, found, there, writable, rfl⟩
    · exact absurd updated (by simp)

/-- Nothing is lost where a file is written. -/
lemma grows_update {f : ByteArray → ByteArray} (updated : fs.update cwd p f = .ok fs') :
    Grows fs fs' := by
  obtain ⟨_, _, nothing, rfl⟩ | ⟨_, _, _, there, _, rfl⟩ := update_cases updated
  · exact grows_make _ nothing
  · exact grows_set_file _ there

/-- Where a path leads that a file has been written to, and that the file can be written again. -/
lemma exists_place_of_update {f : ByteArray → ByteArray} (updated : fs.update cwd p f = .ok fs') :
    ∃ g loc old, fs.goal cwd p .writing = .ok g ∧ g.place? = some loc ∧
      fs'.node? loc = some (.file (f old)) ∧ fs'.refusal? loc .write = none := by
  obtain ⟨loc, found, nothing, rfl⟩ | ⟨loc, old, found, there, writable, rfl⟩ := update_cases updated
  · have ne : loc ≠ [] := ne_nil_of_node? (nothing.trans_ne (by simp))
    refine ⟨_, loc, .empty, found, rfl, ?_, ?_⟩
    · rw [node?_make ne, if_pos rfl]
    · rw [refusal?_make, if_pos rfl]
  · have ne : loc ≠ [] := ne_nil_of_node? (there.trans_ne (by simp))
    exact ⟨_, loc, old, found, rfl, by rw [node?_set ne, if_pos rfl], writable⟩

/-- Where a file has been written, its new content is found. -/
lemma status_of_update {f : ByteArray → ByteArray} (updated : fs.update cwd p f = .ok fs') :
    ∃ old, fs'.status cwd p = .ok (.file (f old)) := by
  obtain ⟨_, loc, old, found, leads, there, _⟩ := exists_place_of_update updated
  obtain ⟨_, found', place_eq⟩ :=
    goal_of_grows (grows_update updated) there (by simp) .content (by simp) found leads
  obtain rfl := place_eq (by simp)
  exact ⟨old, status_eq_ok_iff.2 (.inl ⟨_, found', there⟩)⟩

/-- Whether the system lets be read the file that is found at a path. -/
def IsReadable (fs : FileSystem) (cwd : CurrentDirectory) (p : Text) : Prop :=
  ∀ loc content, fs.goal cwd p .content = .ok (.present loc) → fs.node? loc = some (.file content) →
    fs.refusal? loc .read = none

/-- What is read can be read. -/
lemma isReadable_of_read {content : ByteArray} (read_eq : fs.read cwd p = .ok content) :
    fs.IsReadable cwd p := by
  obtain ⟨loc, found, _, readable⟩ := read_eq_ok_iff.1 read_eq
  intro other _ found' _
  obtain ⟨⟩ := found.symm.trans found'
  exact readable

/-- Where nothing is found, nothing is refused. -/
lemma isReadable_of_probe (missing : fs.probe cwd p = .ok none) : fs.IsReadable cwd p := by
  intro loc content found there
  rw [probe_of_status (status_eq_ok_iff.2 (.inl ⟨loc, found, there⟩))] at missing
  exact absurd missing (by simp)

/-- What can be read could be read before. -/
lemma IsReadable.of_grows (grows : Grows fs fs') (readable : fs'.IsReadable cwd p) :
    fs.IsReadable cwd p := by
  intro loc content found there
  obtain ⟨content', there'⟩ := grows.file there
  obtain ⟨_, found', place_eq⟩ := goal_of_grows grows there' (by simp) .content (by simp) found rfl
  obtain rfl := place_eq (by simp)
  exact (grows.refusal there .read).symm.trans (readable _ content' found' there')

/-- What has been written is read, if it may be read at all. -/
theorem read_write {content : ByteArray} (readable : fs.IsReadable cwd p)
    (written : fs.write cwd p content = .ok fs') : fs'.read cwd p = .ok content := by
  obtain ⟨loc, found, nothing, rfl⟩ | ⟨loc, old, found, there, _, rfl⟩ := update_cases written
  · have ne : loc ≠ [] := ne_nil_of_node? (nothing.trans_ne (by simp))
    have there : (fs.make loc (.file content)).node? loc = some (.file content) := by
      rw [node?_make ne, if_pos rfl]
    obtain ⟨_, found', place_eq⟩ :=
      goal_of_grows (grows_make _ nothing) there (by simp) .content (by simp) found rfl
    obtain rfl := place_eq (by simp)
    exact read_eq_ok_iff.2 ⟨_, found', there, by rw [refusal?_make, if_pos rfl]⟩
  · have ne : loc ≠ [] := ne_nil_of_node? (there.trans_ne (by simp))
    have there' : (fs.set loc (.file content)).node? loc = some (.file content) := by
      rw [node?_set ne, if_pos rfl]
    obtain ⟨_, before, place_eq⟩ :=
      goal_of_grows (.refl fs) there (by simp) .content (by simp) found rfl
    obtain rfl := place_eq (by simp)
    obtain ⟨_, found', place_eq⟩ :=
      goal_of_grows (grows_set_file _ there) there' (by simp) .content (by simp) found rfl
    obtain rfl := place_eq (by simp)
    exact read_eq_ok_iff.2 ⟨_, found', there', readable _ old before there⟩

/-- Whether a file can be written does not depend on what is written. -/
lemma exists_update {f : ByteArray → ByteArray} (updated : fs.update cwd p f = .ok fs')
    (g : ByteArray → ByteArray) : ∃ fs'', fs.update cwd p g = .ok fs'' := by
  rw [update] at updated ⊢
  split at updated
  · exact absurd updated (by simp)
  · exact absurd updated (by simp)
  · split at updated
    · exact absurd updated (by simp)
    · exact ⟨_, rfl⟩
  · split at updated
    · exact absurd updated (by simp)
    · exact ⟨_, rfl⟩
    · exact absurd updated (by simp)

/-- A file that has been written can be written again. -/
lemma exists_update_of_grows {f : ByteArray → ByteArray} (updated : fs.update cwd p f = .ok fs')
    (grows : Grows fs' fs'') (g : ByteArray → ByteArray) :
    ∃ fs₃, fs''.update cwd p g = .ok fs₃ := by
  obtain ⟨_, loc, old, found, leads, there, writable⟩ := exists_place_of_update updated
  obtain ⟨content, there'⟩ := grows.file there
  obtain ⟨place, found', place_eq⟩ := goal_of_grows ((grows_update updated).trans grows) there'
    (by simp) .writing (fun _ => rfl) found leads
  obtain rfl := place_eq (by simp)
  refine ⟨fs''.set place (.file (g content)), ?_⟩
  rw [update, found']
  dsimp only
  rw [there', (grows.refusal there .write).trans writable]

/-- Whether a file system differs from another one by directories alone, each where there was nothing.
What is refused elsewhere is refused as before. -/
structure GainsDirectories (fs fs' : FileSystem) : Prop where
  node : ∀ loc, fs'.node? loc = fs.node? loc ∨ fs.node? loc = none ∧ fs'.node? loc = some .directory
  refusal : ∀ {loc node}, fs.node? loc = some node →
    ∀ request, fs'.refusal? loc request = fs.refusal? loc request

namespace GainsDirectories

lemma refl (fs : FileSystem) : GainsDirectories fs fs := ⟨fun _ => .inl rfl, fun _ _ => rfl⟩

/-- What is there stays as it is. -/
lemma node?_of_some (gains : GainsDirectories fs fs') (there : fs.node? loc = some node) :
    fs'.node? loc = some node := by
  obtain same | ⟨nothing, _⟩ := gains.node loc
  · exact same.trans there
  · exact absurd (there.symm.trans nothing) (by simp)

/-- Directories may be gained twice. -/
lemma trans (first : GainsDirectories fs fs') (second : GainsDirectories fs' fs'') :
    GainsDirectories fs fs'' where
  node loc := by
    obtain same | ⟨nothing, made⟩ := second.node loc
    · rw [same]
      exact first.node loc
    · obtain same' | ⟨_, made'⟩ := first.node loc
      · exact .inr ⟨same' ▸ nothing, made⟩
      · exact absurd (made'.symm.trans nothing) (by simp)
  refusal there request :=
    (second.refusal (first.node?_of_some there) request).trans (first.refusal there request)

/-- Nothing is lost where directories are gained. -/
lemma grows (gains : GainsDirectories fs fs') : Grows fs fs' :=
  ⟨gains.node?_of_some, gains.node?_of_some, fun there => ⟨_, gains.node?_of_some there⟩,
    gains.refusal⟩

/-- A file that was found is found with the same content. -/
lemma status_eq (gains : GainsDirectories fs fs') {content : ByteArray}
    (found : fs.status cwd p = .ok (.file content)) : fs'.status cwd p = .ok (.file content) := by
  obtain ⟨loc, found, there⟩ | ⟨_, e⟩ := status_eq_ok_iff.1 found
  · have there' := gains.node?_of_some there
    obtain ⟨_, found', place_eq⟩ :=
      goal_of_grows gains.grows there' (by simp) .content (by simp) found rfl
    obtain rfl := place_eq (by simp)
    exact status_eq_ok_iff.2 (.inl ⟨_, found', there'⟩)
  · exact absurd e (by simp)

end GainsDirectories

/-- Something is made where the path leads to nothing. -/
lemma exists_make_of_create (created : fs.create cwd p node = .ok fs') :
    ∃ loc, fs.goal cwd p .name = .ok (.absent loc) ∧ fs' = fs.make loc node := by
  rw [create] at created
  split at created
  · exact absurd created (by simp)
  · rename_i loc found
    split at created
    · exact absurd created (by simp)
    · obtain ⟨⟩ := created
      exact ⟨loc, found, rfl⟩
  · exact absurd created (by simp)

/-- A system error is told for the path that was asked for. -/
lemma path_of_goal_eq_error {purpose : Purpose} {e : SystemError} {q : Text}
    (failed : fs.goal cwd p purpose = .error (.system e q)) : q = p := by
  rw [goal] at failed
  split at failed
  · rename_i fault noPath
    obtain ⟨⟩ := failed
    rw [pathFault?] at noPath
    split at noPath
    · exact absurd noPath (by simp)
    · split at noPath
      · exact absurd noPath (by simp)
      · exact absurd noPath (by simp)
  · split at failed
    · exact absurd failed (by simp)
    · obtain ⟨⟩ := failed
      rfl

/-- A system error in making something is told for the path that was asked for. -/
lemma path_of_create_eq_error {e : SystemError} {q : Text}
    (failed : fs.create cwd p node = .error (.system e q)) : q = p := by
  rw [create] at failed
  split at failed
  · rename_i failed'
    obtain ⟨⟩ := failed
    exact path_of_goal_eq_error failed'
  · split at failed
    · obtain ⟨⟩ := failed
      rfl
    · exact absurd failed (by simp)
  · obtain ⟨⟩ := failed
    rfl

/-- A directory is made where the path leads to nothing, or one is there already. -/
lemma ensureDirectory_cases (made : fs.ensureDirectory cwd p = .ok fs') :
    (∃ loc, fs.goal cwd p .name = .ok (.absent loc) ∧ fs' = fs.make loc .directory) ∨
      fs.isDirectory cwd p = true ∧ fs' = fs := by
  rw [ensureDirectory] at made
  split at made
  · rename_i created
    obtain ⟨⟩ := made
    exact .inl (exists_make_of_create created)
  · exact absurd made (by simp)
  · rename_i failed
    obtain rfl := path_of_create_eq_error failed
    split at made
    · rename_i isDirectory
      obtain ⟨⟩ := made
      exact .inr ⟨isDirectory_iff.2 (status_of_probe isDirectory), rfl⟩
    · exact absurd made (by simp)
    · exact absurd made (by simp)
  · exact absurd made (by simp)

/-- Where a directory is made, nothing was, and nothing else changes. -/
lemma gainsDirectories_ensureDirectory (made : fs.ensureDirectory cwd p = .ok fs') :
    GainsDirectories fs fs' := by
  obtain ⟨place, found, rfl⟩ | ⟨_, rfl⟩ := ensureDirectory_cases made
  · have nothing := node?_of_goal_absent found
    have ne : place ≠ [] := ne_nil_of_node? (nothing.trans_ne (by simp))
    refine ⟨fun loc => ?_, (grows_make _ nothing).refusal⟩
    rw [node?_make ne]
    split
    · rename_i same
      exact .inr ⟨same ▸ nothing, rfl⟩
    · exact .inl rfl
  · exact .refl _

/-- Nothing is lost where a directory is made. -/
lemma grows_ensureDirectory (made : fs.ensureDirectory cwd p = .ok fs') : Grows fs fs' :=
  (gainsDirectories_ensureDirectory made).grows

/-- A directory that has been made is there. -/
lemma isDirectory_of_ensureDirectory (made : fs.ensureDirectory cwd p = .ok fs') :
    fs'.isDirectory cwd p = true := by
  have grows := grows_ensureDirectory made
  obtain ⟨loc, found, rfl⟩ | ⟨isDirectory, rfl⟩ := ensureDirectory_cases made
  · -- the place was absent, and the path leads to it now that the directory is there
    have ne : loc ≠ [] := ne_nil_of_node? ((node?_of_goal_absent found).trans_ne (by simp))
    have there : (fs.make loc .directory).node? loc = some .directory := by
      rw [node?_make ne, if_pos rfl]
    obtain ⟨_, found', place_eq⟩ := goal_of_grows grows there (by simp) .content (by simp) found rfl
    obtain rfl := place_eq (by simp)
    exact isDirectory_iff.2 (status_eq_ok_iff.2 (.inl ⟨_, found', there⟩))
  · exact isDirectory

/-- No directory is made where one is. -/
lemma ensureDirectory_of_isDirectory (isDirectory : fs.isDirectory cwd p = true) :
    fs.ensureDirectory cwd p = .ok fs := by
  have exists_ : fs.create cwd p .directory = .error (.system .exists p) := by
    obtain ⟨loc, found, there⟩ | ⟨found, _⟩ := status_eq_ok_iff.1 (isDirectory_iff.1 isDirectory)
    · obtain ⟨_, found', _⟩ := goal_of_grows (.refl fs) there (by simp) .name (by simp) found rfl
      rw [create, found']
    · rw [create, goal_eq_removed fs .name found]
  rw [ensureDirectory, exists_]
  dsimp only
  rw [probe_of_status (isDirectory_iff.1 isDirectory)]

/-- The directory of some names that has been made is there. -/
lemma isDirectory_of_ensureNames {root : Text} {names : List Text}
    (made : ensureNames cwd root names fs = (fs', none)) :
    fs'.isDirectory cwd (Path.tidy (root ++ Path.joinNames names.reverse)) = true := by
  cases names with
  | nil =>
    rw [ensureNames] at made
    split at made
    · rename_i made'
      obtain ⟨⟩ := made
      have text_eq : root ++ Path.joinNames ([] : List Text).reverse = root := List.append_nil root
      rw [text_eq]
      exact isDirectory_of_ensureDirectory made'
    · exact absurd made (by simp)
  | cons name above =>
    rw [ensureNames] at made
    split at made
    · rename_i made'
      obtain ⟨⟩ := made
      exact isDirectory_of_ensureDirectory made'
    · split at made
      · exact absurd made (by simp)
      · split at made
        · rename_i made'
          obtain ⟨⟩ := made
          exact isDirectory_of_ensureDirectory made'
        · exact absurd made (by simp)
    · exact absurd made (by simp)

/-- Where the directory of some names is made, nothing but directories is, even if that fails. -/
lemma gainsDirectories_ensureNames (cwd : CurrentDirectory) (root : Text) (names : List Text)
    (fs : FileSystem) : GainsDirectories fs (ensureNames cwd root names fs).1 := by
  induction names generalizing fs with
  | nil =>
    rw [ensureNames]
    split
    · rename_i made
      exact gainsDirectories_ensureDirectory made
    · exact .refl fs
  | cons name above ih =>
    rw [ensureNames]
    split
    · rename_i made
      exact gainsDirectories_ensureDirectory made
    · have first := ih fs
      split
      · rename_i aboveMade
        rw [aboveMade] at first
        exact first
      · rename_i aboveMade
        rw [aboveMade] at first
        split
        · rename_i made
          exact first.trans (gainsDirectories_ensureDirectory made)
        · exact first
    · exact .refl fs

/-- Where directories are made, nothing else is, even if that fails. -/
lemma gainsDirectories_ensureDirectories (fs : FileSystem) (cwd : CurrentDirectory) (p : Text) :
    GainsDirectories fs (fs.ensureDirectories cwd p).1 :=
  gainsDirectories_ensureNames cwd _ _ fs

/-- Nothing is lost where directories are made, even if that fails. -/
lemma grows_ensureDirectories (fs : FileSystem) (cwd : CurrentDirectory) (p : Text) :
    Grows fs (fs.ensureDirectories cwd p).1 :=
  (gainsDirectories_ensureDirectories fs cwd p).grows

/-- Directories that have been made need not be made again. -/
theorem ensureDirectories_of_grows (made : fs.ensureDirectories cwd p = (fs', none))
    (grows : Grows fs' fs'') : fs''.ensureDirectories cwd p = (fs'', none) := by
  have there := isDirectory_of_grows grows (isDirectory_of_ensureNames made)
  rw [ensureDirectories]
  cases names_eq : (Path.names p).reverse with
  | nil =>
    rw [names_eq] at there
    have text_eq : Path.root p ++ Path.joinNames ([] : List Text).reverse = Path.root p :=
      List.append_nil _
    rw [text_eq] at there
    rw [ensureNames, ensureDirectory_of_isDirectory there]
  | cons name above =>
    rw [names_eq] at there
    rw [ensureNames, ensureDirectory_of_isDirectory there]

end FileSystem

end CompileFlags
