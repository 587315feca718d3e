import CompileFlags.Proofs.FileSystem.Writing
import CompileFlags.Proofs.Json.Read
import CompileFlags.Proofs.Settings.Document

/-!
# Settings that are kept

Loaded settings are settled and can be written (`Settings.isSettled_of_load`,
`Settings.isWritable_of_load`), and loading them once more gives the same and changes no file
(`Settings.load_of_load`). Settings that have been saved are what is loaded next, but for
floating-point numbers (`Settings.load_of_save`).
-/

namespace CompileFlags

/-- Line breaks are characters. -/
lemma Text.hasBytes_unifyNewlines {t : Text} (hasBytes : t.HasBytes) :
    (unifyNewlines t).HasBytes := by
  induction t using unifyNewlines.induct with
  | case1 => exact hasBytes
  | case2 rest ih =>
    rw [unifyNewlines]
    refine List.forall_mem_cons.2 ⟨rfl, ih ?_⟩
    exact (List.forall_mem_cons.1 (List.forall_mem_cons.1 hasBytes).2).2
  | case3 c rest other ih =>
    obtain ⟨first, others⟩ := List.forall_mem_cons.1 hasBytes
    rw [unifyNewlines]
    · refine List.forall_mem_cons.2 ⟨?_, ih others⟩
      split
      · rfl
      · exact first
    · exact other

namespace Settings

variable {env : Env} {fs fs' : FileSystem} {s s' : Settings} {values : SettingValues}

/-- Settings are loaded from the file in their directory, which is made if it is missing. -/
lemma load_eq_ok_iff : load env fs = (.ok s, fs') ↔ directoryIn env = .ok s.directory ∧
    fs.ensureDirectories env.cwd s.directory = (fs', none) ∧ readFile env fs' s.file = .ok s.values := by
  rw [load]
  cases directoryIn env with
  | error fault => simp
  | ok directory =>
    dsimp only
    constructor
    · intro loaded
      split at loaded
      · exact absurd loaded (by simp)
      · rename_i made
        split at loaded
        · exact absurd loaded (by simp)
        · rename_i read
          obtain ⟨⟩ := loaded
          exact ⟨rfl, made, read⟩
    · rintro ⟨e, made, read⟩
      obtain rfl := Except.ok.inj e
      have read' : readFile env fs' (Path.join s.directory "config.json") = .ok s.values := read
      rw [made]
      dsimp only
      rw [read']

/-- The settings of a file that can be read are those that its bytes hold. -/
lemma readFile_of_read {path : Text} {content : ByteArray}
    (read : fs.read env.cwd path = .ok content) : readFile env fs path = decode env content := by
  rw [readFile, FileSystem.probe_of_status (FileSystem.status_of_read read)]
  dsimp only
  rw [read]

/-- The settings of a file that holds a document are those of the document. -/
lemma readFile_of_parse {path text : Text} {content : ByteArray} {document : Value}
    (read : fs.read env.cwd path = .ok content) (decoded : Text.decodeUtf8 content = .ok text)
    (parsed : Json.parse env.readLevels (Text.unifyNewlines text) = .ok document) :
    readFile env fs path = .ok (.ofDocument document) := by
  rw [readFile_of_read read, decode, decoded]
  dsimp only
  rw [parsed]

/-- What is loaded comes from a document of characters, or is the defaults. -/
lemma values_of_readFile {path : Text} (read : readFile env fs path = .ok values) :
    values = .defaults ∨ ∃ text document, Text.HasBytes text ∧
      Json.parse env.readLevels text = .ok document ∧ values = .ofDocument document := by
  rw [readFile] at read
  split at read
  · exact absurd read (by simp)
  · exact .inl (Except.ok.inj read).symm
  · split at read
    · exact .inl (Except.ok.inj read).symm
    · rw [decode] at read
      split at read
      · exact absurd read (by simp)
      · rename_i decoded
        split at read
        · rename_i parsed
          exact .inr ⟨_, _, Text.hasBytes_unifyNewlines (Text.hasBytes_of_decodeUtf8 decoded), parsed,
            (Except.ok.inj read).symm⟩
        · exact .inl (Except.ok.inj read).symm
        · exact absurd read (by simp)
        · exact absurd read (by simp)

/-- Loaded settings are settled. -/
lemma isSettled_of_load (loaded : load env fs = (.ok s, fs')) : s.values.IsSettled := by
  obtain ⟨_, _, read⟩ := load_eq_ok_iff.1 loaded
  obtain e | ⟨_, document, _, _, e⟩ := values_of_readFile read
  · rw [e]
    exact SettingValues.isSettled_defaults
  · rw [e]
    exact SettingValues.isSettled_ofDocument document

/-- Loaded settings can be written within as many levels as they were read. -/
lemma isWritable_of_load (loaded : load env fs = (.ok s, fs')) :
    Json.IsWritable env.readLevels (.object s.values) := by
  have settled := isSettled_of_load loaded
  obtain ⟨_, _, read⟩ := load_eq_ok_iff.1 loaded
  have four_le := env.four_le_levels.1
  have ofDefaults {entry : Text × Value} (mem : entry ∈ SettingValues.defaults) :
      Json.IsSeparable entry.1 ∧ Json.IsWritable (env.readLevels - 1) entry.2 := by
    obtain ⟨hasBytes, plain⟩ := SettingValues.isPlain_of_mem_defaults mem
    refine ⟨Json.isSeparable_of_hasBytes hasBytes, ?_⟩
    exact (Value.isWritable_of_isPlain plain).of_le (by omega)
  refine .object_of_forall (by omega) settled.distinct fun entry mem => ?_
  obtain e | ⟨_, document, hasBytes, parsed, e⟩ := values_of_readFile read
  · exact ofDefaults (e ▸ mem)
  · obtain mem | ⟨entries, rfl, mem⟩ := SettingValues.mem_ofDocument (e ▸ mem)
    · exact ofDefaults mem
    · exact (Json.isWritable_of_parse hasBytes parsed).of_mem mem

/-- Loading settings once more gives the same, and changes no file. -/
lemma load_of_load (loaded : load env fs = (.ok s, fs')) : load env fs' = (.ok s, fs') := by
  obtain ⟨directory, made, read⟩ := load_eq_ok_iff.1 loaded
  exact load_eq_ok_iff.2 ⟨directory, FileSystem.ensureDirectories_of_grows made (.refl fs'), read⟩

/-- Loading settings takes nothing away. -/
lemma grows_of_load (loaded : load env fs = (.ok s, fs')) : fs.Grows fs' := by
  obtain ⟨_, made, _⟩ := load_eq_ok_iff.1 loaded
  have grows := FileSystem.grows_ensureDirectories fs env.cwd s.directory
  rwa [made] at grows

/-- How settings are saved: their directory is there or is made, and their file is written, with a
document that is complete. -/
lemma exists_write_of_save (saved : save env fs s = ⟨s', fs', .ok ()⟩) : s' = s ∧
    (Json.render env.writeLevels s.values.toDocument).fault? = none ∧
    ∃ fs₁, fs.ensureDirectories env.cwd s.directory = (fs₁, none) ∧
      fs₁.write env.cwd s.file (Json.render env.writeLevels s.values.toDocument).bytes = .ok fs' := by
  rw [save] at saved
  split at saved
  · exact absurd saved (by simp)
  · rename_i fs₁ made
    dsimp only at saved
    split at saved
    · exact absurd saved (by simp)
    · rename_i written
      obtain ⟨rfl, rfl, complete⟩ := Change.mk.inj saved
      refine ⟨rfl, ?_, fs₁, made, written⟩
      rw [Json.Draft.result] at complete
      split at complete
      · assumption
      · exact absurd complete (by simp [Except.mapError])

/-- Saving settings takes nothing away. -/
lemma grows_of_save (saved : save env fs s = ⟨s', fs', .ok ()⟩) : fs.Grows fs' := by
  obtain ⟨_, _, fs₁, made, written⟩ := exists_write_of_save saved
  have grows := FileSystem.grows_ensureDirectories fs env.cwd s.directory
  rw [made] at grows
  exact grows.trans (FileSystem.grows_update written)

/-- Whether the file of settings can be read, if it is there. -/
def IsOpen (env : Env) (fs : FileSystem) (s : Settings) : Prop := fs.IsReadable env.cwd s.file

/-- Where settings have been saved, what is loaded next is what their file holds. -/
lemma load_of_readFile (loaded : load env fs = (.ok s, fs))
    (saved : save env fs { s with values } = ⟨s', fs', .ok ()⟩) {others : SettingValues}
    (read : readFile env fs' s.file = .ok others) :
    load env fs' = (.ok { s with values := others }, fs') := by
  obtain ⟨directory, made, _⟩ := load_eq_ok_iff.1 loaded
  obtain ⟨_, _, _, made', written⟩ := exists_write_of_save saved
  obtain rfl := (Prod.mk.inj (made.symm.trans made')).1
  have there := FileSystem.ensureDirectories_of_grows made (FileSystem.grows_update written)
  exact load_eq_ok_iff.2 ⟨directory, there, read⟩

/-- Settings that have been saved to a file that cannot be read are not loaded. -/
lemma load_of_save_of_not_isOpen (loaded : load env fs = (.ok s, fs)) (closed : ¬ IsOpen env fs s)
    (saved : save env fs { s with values } = ⟨s', fs', .ok ()⟩) :
    load env fs' = (.ok { s with values := .defaults }, fs') := by
  refine load_of_readFile loaded saved ?_
  obtain ⟨_, _, _, _, written⟩ := exists_write_of_save saved
  obtain ⟨_, found⟩ := FileSystem.status_of_update written
  have file : ({ s with values } : Settings).file = s.file := rfl
  rw [file] at found
  rw [readFile, FileSystem.probe_of_status found]
  dsimp only
  cases read : fs'.read env.cwd s.file with
  | error fault => rfl
  | ok content =>
    have readable := FileSystem.isReadable_of_read read
    exact absurd (readable.of_grows (grows_of_save saved)) closed

/-- Settings that have been saved are what is loaded next. -/
theorem load_of_save (loaded : load env fs = (.ok s, fs)) (isOpen : IsOpen env fs s)
    (settled : values.IsSettled) (writable : Json.IsWritable env.readLevels (.object values))
    (saved : save env fs { s with values } = ⟨s', fs', .ok ()⟩) :
    load env fs' = (.ok { s with values := values.reread }, fs') := by
  refine load_of_readFile loaded saved ?_
  obtain ⟨_, made, _⟩ := load_eq_ok_iff.1 loaded
  obtain ⟨_, complete, _, made', written⟩ := exists_write_of_save saved
  obtain rfl := (Prod.mk.inj (made.symm.trans made')).1
  refine (readFile_of_read (FileSystem.read_write isOpen written)).trans ?_
  exact decode_render settled writable (Json.isWritable_of_render writable complete)

end Settings

end CompileFlags
