import CompileFlags.Proofs.Database
import CompileFlags.Proofs.FileSystem.Paths
import CompileFlags.Proofs.Json.Limits
import CompileFlags.Proofs.Path.Resolve

/-!
# Database files

A database file is read if it holds an array, whatever the digits of its integers and however deep its
brackets, and it is to blame for any other content or if it is no file (`Database.LoadsOrBlames`). That is
so exactly if its path can be passed to the system, its text goes beyond no limit, and the paths of the
array can be resolved (`Database.loadsOrBlames_iff_isLoadable`).
-/

namespace CompileFlags

variable {env : Env} {fs : FileSystem} {path p base text : Text} {fault : Fault} {levels : Nat}

namespace Database

/-- Why items have no entries: there is a path that cannot be resolved. -/
lemma fault?_cases {items : List Value} (failed : fault? env items = some fault) :
    fault = .noCurrentDirectory ∨ ∃ access, fault = .access access := by
  obtain ⟨c, _, failed⟩ := List.exists_of_findSome?_eq_some failed
  rw [BuildCommand.fault?] at failed
  split at failed
  · exact absurd failed (by simp)
  · obtain ⟨_, _, failed⟩ := List.exists_of_findSome?_eq_some failed
    exact Path.fault?_cases failed

/-- No database is to blame for items whose paths cannot be resolved. -/
lemma ne_database_of_fault? {items : List Value} (failed : fault? env items = some fault)
    (blamed : Text) (cause : DatabaseCause) : fault ≠ .database blamed cause := by
  obtain rfl | ⟨_, rfl⟩ := fault?_cases failed
  · exact Fault.noConfusion
  · exact Fault.noConfusion

/-- Whether a file is read as it should be: it gives a database exactly if it holds an array, whatever
the digits of its integers and however deep its brackets, and otherwise it is to blame. -/
structure LoadsOrBlames (env : Env) (fs : FileSystem) (path : Text) : Prop where
  loads : (∃ db, load env fs path = .ok db) ↔ ∃ s : String, fs.read env.cwd path = .ok s.toUTF8 ∧
    Json.IsArray Json.Any (Text.unifyNewlines s)
  blames : ∀ fault, load env fs path = .error fault → ∃ cause, fault = .database path cause

/-- Whether nothing stands against reading a file but the file itself. -/
structure IsLoadable (env : Env) (fs : FileSystem) (path : Text) : Prop where
  usable : FileSystem.pathFault? path = none
  within : ∀ s : String, fs.read env.cwd path = .ok s.toUTF8 →
    ∀ limit, ¬ Json.GoesBeyond (env.readLevels - 1) limit (Text.unifyNewlines s)
  resolved : ∀ (s : String) (items : List Value), fs.read env.cwd path = .ok s.toUTF8 →
    Json.parse (env.readLevels - 1) (Text.unifyNewlines s) = .ok (.list items) →
      fault? env items = none

/-- What comes of reading a text: it is an array and gives a database, or it is none and is to blame. Or
else it goes beyond a limit, or a path in it cannot be resolved, and then it is not to blame. -/
inductive ReadOutcome (env : Env) (levels : Nat) (path text : Text) : Except Fault Database → Prop where
  | loaded {items : List Value} {db : Database} (array : Json.parse levels text = .ok (.list items))
    (resolved : fault? env items = none) : ReadOutcome env levels path text (.ok db)
  | blamed (cause : DatabaseCause) (notArray : ¬ Json.IsArray Json.Any text)
    (within : ∀ limit, ¬ Json.GoesBeyond levels limit text) :
    ReadOutcome env levels path text (.error (.database path cause))
  | beyond {limit : Json.Limit} {fault : Fault} (goes : Json.GoesBeyond levels limit text)
    (other : ∀ blamed cause, fault ≠ .database blamed cause) :
    ReadOutcome env levels path text (.error fault)
  | unresolved {items : List Value} {fault : Fault}
    (array : Json.parse levels text = .ok (.list items)) (failed : fault? env items = some fault) :
    ReadOutcome env levels path text (.error fault)

/-- Something comes of every text. -/
lemma ofText_outcome (env : Env) (levels : Nat) (path text : Text) :
    ReadOutcome env levels path text (ofText env levels path text) := by
  have within {result : Except Json.Error Value} (read : Json.parse levels text = result)
      (other : ∀ limit : Json.Limit, result ≠ .error limit.error) (limit : Json.Limit) :
      ¬ Json.GoesBeyond levels limit text :=
    fun goes => other limit (read.symm.trans (Json.parse_eq_limit_iff.2 goes))
  have no_array {result : Except Json.Error Value} (read : Json.parse levels text = result)
      (other : ∀ limit : Json.Limit, result ≠ .error limit.error)
      (noList : ∀ vs, result ≠ .ok (.list vs)) : ¬ Json.IsArray Json.Any text := by
    intro isArray
    obtain ⟨vs, array⟩ | ⟨limit, failed⟩ := Json.parse_of_isArray isArray levels
    · exact noList vs (read.symm.trans array)
    · exact other limit (read.symm.trans failed)
  have malformed_ne {complaint : Json.SyntaxFault} (limit : Json.Limit) :
      (.error (.malformed complaint) : Except Json.Error Value) ≠ .error limit.error := by
    cases limit <;> simp [Json.Limit.error]
  -- one outcome for each thing that reading comes to; only an array is looked at any further
  rw [ofText]
  split
  · rename_i malformed
    exact .blamed _ (no_array malformed malformed_ne (by simp)) (within malformed malformed_ne)
  · rename_i count failed
    have goes : Json.GoesBeyond levels (.tooManyDigits count) text := Json.parse_eq_limit_iff.1 failed
    exact .beyond goes (by simp)
  · rename_i bracket failed
    have goes : Json.GoesBeyond levels (.tooDeep bracket) text := Json.parse_eq_limit_iff.1 failed
    exact .beyond goes (by simp)
  · rename_i items array
    split
    · rename_i failed
      exact .unresolved array failed
    · rename_i resolved
      exact .loaded array resolved
  · rename_i notList other
    exact .blamed _ (no_array other (by simp) fun vs e => notList vs (Except.ok.inj e))
      (within other (by simp))

/-- A file whose bytes are those of a string is read by the string. -/
lemma load_of_read {s : String} (read : fs.read env.cwd path = .ok s.toUTF8) :
    load env fs path = ofText env (env.readLevels - 1) path (Text.unifyNewlines s) := by
  rw [load, read]
  dsimp only
  rw [Text.decodeUtf8_toUTF8]

/-- A file that holds no string is to blame, if its path can be passed to the system. -/
lemma exists_load_eq_of_no_string (usable : FileSystem.pathFault? path = none)
    (noString : ∀ s : String, fs.read env.cwd path ≠ .ok s.toUTF8) :
    ∃ cause, load env fs path = .error (.database path cause) := by
  rw [load]
  split
  · exact ⟨_, rfl⟩
  · rename_i fault notSystem failed
    obtain ⟨e, q, rfl⟩ := FileSystem.exists_system_of_read usable failed
    exact absurd rfl (notSystem e q)
  · rename_i bytes read
    split
    · exact ⟨_, rfl⟩
    · rename_i decoded
      obtain ⟨s, rfl, _⟩ := Text.decodeUtf8_eq_ok_iff.1 decoded
      exact absurd read (noString s)

/-- A path that cannot be passed to the system is no fault of the database. -/
lemma exists_load_eq_access (unusable : FileSystem.pathFault? path ≠ none) :
    ∃ fault, load env fs path = .error (.access fault) := by
  obtain ⟨fault, fault_eq⟩ := Option.ne_none_iff_exists'.1 unusable
  have found : fs.status env.cwd path = .error fault := by
    rw [FileSystem.status, FileSystem.goal, fault_eq]
  have failed : fs.read env.cwd path = .error fault := by
    rw [FileSystem.read, found]
  refine ⟨fault, ?_⟩
  rw [load, failed]
  split
  · rename_i e
    rw [Except.error.inj e] at fault_eq
    exact absurd fault_eq FileSystem.pathFault?_ne_system
  · rename_i e
    rw [Except.error.inj e]
  · rename_i e
    exact absurd e (by simp)

/-- Nothing is read at a path that cannot be passed to the system. -/
lemma usable_of_read {bytes : ByteArray} (read : fs.read env.cwd path = .ok bytes) :
    FileSystem.pathFault? path = none :=
  FileSystem.pathFault?_of_status (FileSystem.status_of_read read)

/-- A file that holds a string is read as it should be, unless something else stands against it. -/
lemma load_cases_of_read {s : String} (read : fs.read env.cwd path = .ok s.toUTF8) :
    IsLoadable env fs path ∧ LoadsOrBlames env fs path ∨
      ¬ IsLoadable env fs path ∧ ∃ fault, load env fs path = .error fault ∧
        ∀ blamed cause, fault ≠ .database blamed cause := by
  -- the bytes of a string are those of no other
  have only {s' : String} (read' : fs.read env.cwd path = .ok s'.toUTF8) : s' = s :=
    String.toByteArray_inj.1 (Except.ok.inj (read'.symm.trans read))
  have outcome := ofText_outcome env (env.readLevels - 1) path (Text.unifyNewlines s)
  have loaded := load_of_read read
  generalize ofText env (env.readLevels - 1) path (Text.unifyNewlines s) = result at outcome loaded
  cases outcome with
  | loaded array resolved =>
    refine .inl ⟨⟨usable_of_read read, fun s' read' limit goes => ?_, fun s' items' read' array' => ?_⟩,
      iff_of_true ⟨_, loaded⟩ ⟨s, read, Json.isArray_of_parse array⟩, fun fault failed => ?_⟩
    · obtain rfl := only read'
      exact absurd (array.symm.trans (Json.parse_eq_limit_iff.2 goes)) (by simp)
    · obtain rfl := only read'
      obtain ⟨⟩ := array.symm.trans array'
      exact resolved
    · exact absurd (loaded.symm.trans failed) (by simp)
  | blamed cause notArray within =>
    refine .inl ⟨⟨usable_of_read read, fun s' read' => ?_, fun s' items' read' array' => ?_⟩,
      iff_of_false ?_ ?_, fun fault failed => ⟨cause, ?_⟩⟩
    · obtain rfl := only read'
      exact within
    · obtain rfl := only read'
      exact absurd (Json.isArray_of_parse array') notArray
    · rintro ⟨db, loaded'⟩
      exact absurd (loaded.symm.trans loaded') (by simp)
    · rintro ⟨s', read', isArray⟩
      obtain rfl := only read'
      exact notArray isArray
    · exact Except.error.inj (failed.symm.trans loaded)
  | beyond goes other =>
    exact .inr ⟨fun loadable => loadable.within s read _ goes, _, loaded, other⟩
  | unresolved array failed =>
    refine .inr ⟨fun loadable => ?_, _, loaded, ne_database_of_fault? failed⟩
    exact absurd (failed.symm.trans (loadable.resolved s _ read array)) (by simp)

/-- A file is read as it should be, unless something stands against it but the file itself. Then reading
it fails, and no database is to blame. -/
lemma load_cases (env : Env) (fs : FileSystem) (path : Text) :
    IsLoadable env fs path ∧ LoadsOrBlames env fs path ∨
      ¬ IsLoadable env fs path ∧ ∃ fault, load env fs path = .error fault ∧
        ∀ blamed cause, fault ≠ .database blamed cause := by
  by_cases usable : FileSystem.pathFault? path = none
  · by_cases holds : ∃ s : String, fs.read env.cwd path = .ok s.toUTF8
    · obtain ⟨s, read⟩ := holds
      exact load_cases_of_read read
    · have noString (s : String) : fs.read env.cwd path ≠ .ok s.toUTF8 := fun read => holds ⟨s, read⟩
      obtain ⟨cause, failed⟩ := exists_load_eq_of_no_string usable noString
      refine .inl ⟨⟨usable, fun s read => absurd read (noString s),
        fun s _ read => absurd read (noString s)⟩, iff_of_false ?_ ?_, fun fault failed' => ⟨cause, ?_⟩⟩
      · rintro ⟨db, loaded⟩
        exact absurd (failed.symm.trans loaded) (by simp)
      · rintro ⟨s, read, _⟩
        exact noString s read
      · exact Except.error.inj (failed'.symm.trans failed)
  · obtain ⟨fault, failed⟩ : ∃ fault, load env fs path = .error (.access fault) :=
      exists_load_eq_access usable
    exact .inr ⟨fun loadable => usable loadable.usable, _, failed, fun _ _ => Fault.noConfusion⟩

/-- A file is read as it should be exactly if nothing stands against it but the file itself. -/
theorem loadsOrBlames_iff_isLoadable : LoadsOrBlames env fs path ↔ IsLoadable env fs path := by
  obtain ⟨loadable, promised⟩ | ⟨notLoadable, fault, failed, other⟩ := load_cases env fs path
  · exact iff_of_true promised loadable
  · refine iff_of_false (fun promised => ?_) notLoadable
    obtain ⟨cause, e⟩ := promised.blames fault failed
    exact other path cause e

end Database

end CompileFlags
