import CompileFlags.Proofs.Json.Limits
import CompileFlags.Proofs.Settings.Operations

/-!
# Starting with any document

Whatever bytes the document of the settings has, they should be loaded: as the defaults, or updated by
what can be used of an object (`Settings.Promised`). That is so exactly if the bytes are a text that
goes beyond no limit (`Settings.load_promised_iff`).
-/

namespace CompileFlags

namespace SettingValues

variable {members values : SettingValues} {name : Text} {value : Value}

/-- Whether settings are the defaults but for the members of an object that can be used: those that
are unknown, and those of their defaults' kinds. -/
structure IsUpdate (values members : SettingValues) : Prop where
  names : values.map Prod.fst = defaults.map Prod.fst ++
    (members.map Prod.fst).filter (· ∉ defaults.map Prod.fst)
  used : ∀ member ∈ members, HasKind member.1 member.2 → member ∈ values
  kept : ∀ usual ∈ defaults, (∀ value, (usual.1, value) ∈ members → ¬ HasKind usual.1 value) →
    usual ∈ values

/-- Whether a member of an object can be used. -/
def isUsable (member : Text × Value) : Bool :=
  (OrderedMap.get? member.1 defaults).all fun usual => usual.kind = member.2.kind

/-- A member can be used if it is unknown, or of its default's kind. -/
lemma isUsable_iff {member : Text × Value} : isUsable member = true ↔ HasKind member.1 member.2 := by
  rw [isUsable, HasKind]
  cases OrderedMap.get? member.1 defaults with
  | none => simp
  | some usual => simp

/-- An unknown member can be used. -/
lemma isUsable_of_not_mem {member : Text × Value} (unknown : member.1 ∉ defaults.map Prod.fst) :
    isUsable member = true := by
  have none : OrderedMap.get? member.1 defaults = none := by
    rw [← Option.not_isSome_iff_eq_none, ← OrderedMap.contains_eq_isSome_get?,
      OrderedMap.contains_iff]
    exact unknown
  rw [isUsable, none]
  rfl

/-- What is taken from an object are the members that can be used, in their order. -/
lemma valid_eq_filter (members : SettingValues) :
    valid (entriesOf members) = members.filter isUsable := by
  induction members with
  | nil => rfl
  | cons member members ih =>
    rw [valid] at ih ⊢
    rw [entriesOf_cons, List.filterMap_cons, ih, List.filter_cons, isUsable]
    dsimp only
    cases OrderedMap.get? member.1 defaults with
    | none => rfl
    | some usual =>
      dsimp only [Option.all_some]
      by_cases kind : usual.kind = member.2.kind
      · rw [if_pos kind, if_pos (decide_eq_true kind)]
      · rw [if_neg kind, if_neg (by simpa using kind)]

/-- All unknown members of an object are taken. -/
lemma filter_map_fst_filter (members : SettingValues) :
    ((members.filter isUsable).map Prod.fst).filter (· ∉ defaults.map Prod.fst) =
      (members.map Prod.fst).filter (· ∉ defaults.map Prod.fst) := by
  rw [List.filter_map, List.filter_map, List.filter_filter]
  refine congrArg (List.map Prod.fst) (List.filter_congr fun member _ => ?_)
  change (decide (member.1 ∉ defaults.map Prod.fst) && isUsable member) = decide _
  by_cases unknown : member.1 ∉ defaults.map Prod.fst
  · rw [isUsable_of_not_mem unknown, Bool.and_true]
  · rw [decide_eq_false unknown, Bool.false_and]

/-- The settings of an object are the defaults, updated by it. -/
lemma isUpdate_ofDocument (distinct : (members.map Prod.fst).Nodup) :
    IsUpdate (ofDocument (.object members)) members := by
  have distinctUsable : ((members.filter isUsable).map Prod.fst).Nodup :=
    distinct.sublist (List.filter_sublist.map Prod.fst)
  have document : ofDocument (.object members) =
      OrderedMap.putAll (members.filter isUsable) defaults := by
    rw [← valid_eq_filter]
    rfl
  have found {entry : Text × Value} : entry ∈ ofDocument (.object members) ↔
      ((OrderedMap.get? entry.1 (members.filter isUsable)).or
        (OrderedMap.get? entry.1 defaults)) = some entry.2 := by
    rw [← OrderedMap.get?_putAll _ _ distinctUsable, ← document]
    exact (OrderedMap.get?_eq_some_iff (isSettled_ofDocument _).distinct).symm
  constructor
  case names => rw [document, OrderedMap.map_fst_putAll defaults distinctUsable, filter_map_fst_filter]
  case used =>
    intro member mem kind
    have taken := (OrderedMap.get?_eq_some_iff distinctUsable).2
      (List.mem_filter.2 ⟨mem, isUsable_iff.2 kind⟩)
    rw [found, taken]
    rfl
  case kept =>
    intro usual mem unused
    have none : OrderedMap.get? usual.1 (members.filter isUsable) = none := by
      rw [Option.eq_none_iff_forall_ne_some]
      intro value given
      obtain ⟨there, usable⟩ := List.mem_filter.1 (OrderedMap.mem_of_get? given)
      exact unused value there (isUsable_iff.1 usable)
    rw [found, none]
    exact (OrderedMap.get?_eq_some_iff distinct_defaults).2 mem

end SettingValues

namespace Settings

variable {env : Env} {fs fs' : FileSystem} {directory text : Text} {bytes : ByteArray} {levels : Nat}

/-- Whether settings are those that the bytes of their document should give: always settled; the
defaults, unless the bytes are a text that is an object, whatever the digits of its integers and however
deep its brackets; and for an object the defaults, updated by it. -/
structure Promised (levels : Nat) (bytes : ByteArray) (values : SettingValues) : Prop where
  settled : values.IsSettled
  other : (∀ s : String, bytes = s.toUTF8 → ¬ Json.IsObject Json.Any (Text.unifyNewlines s)) →
    values = .defaults
  object : ∀ s : String, bytes = s.toUTF8 → Json.IsObject Json.Any (Text.unifyNewlines s) →
    ∃ members, Json.parse levels (Text.unifyNewlines s) = .ok (.object members) ∧
      (members.map Prod.fst).Nodup ∧ values.IsUpdate members

/-- Whether bytes are a text that goes beyond no limit. -/
def IsWithinLimits (levels : Nat) (bytes : ByteArray) : Prop :=
  ∃ s : String, bytes = s.toUTF8 ∧ ∀ limit, ¬ Json.GoesBeyond levels limit (Text.unifyNewlines s)

/-- The fault that a text ends with where it goes beyond a limit. -/
def limitFault : Json.Limit → Fault
  | .tooManyDigits count => .tooManyDigits count
  | .tooDeep bracket => .tooDeep bracket

/-- A map that is read from characters has members, each with a name of its own. -/
lemma exists_members_of_parse {entries : List (Scalar × Value)} (hasBytes : text.HasBytes)
    (read : Json.parse levels text = .ok (.map entries)) :
    ∃ members, entries = entriesOf members ∧ (members.map Prod.fst).Nodup := by
  have writable := Json.isWritable_of_parse hasBytes read
  obtain ⟨members, rfl⟩ := writable.exists_members
  exact ⟨members, rfl, writable.of_object.2.2.1⟩

/-- What is read of a text that goes beyond no limit is what it should give. -/
lemma exists_promised_of_within {s : String}
    (within : ∀ limit, ¬ Json.GoesBeyond env.readLevels limit (Text.unifyNewlines s)) :
    ∃ values, decode env s.toUTF8 = .ok values ∧ Promised env.readLevels s.toUTF8 values := by
  have hasBytes := Text.hasBytes_unifyNewlines (Text.hasBytes_ofString s)
  have only {s' : String} (e : s.toUTF8 = s'.toUTF8) : s' = s := (String.toByteArray_inj.1 e).symm
  have readable (isObject : Json.IsObject Json.Any (Text.unifyNewlines s)) :
      ∃ entries, Json.parse env.readLevels (Text.unifyNewlines s) = .ok (.map entries) := by
    obtain read | ⟨limit, failed⟩ := Json.parse_of_isObject isObject env.readLevels
    · exact read
    · exact absurd (Json.parse_eq_limit_iff.1 failed) (within limit)
  rw [decode, Text.decodeUtf8_toUTF8]
  dsimp only
  cases read : Json.parse env.readLevels (Text.unifyNewlines (Text.ofString s)) with
  | error fault =>
    cases fault with
    | tooManyDigits count =>
      exact absurd (Json.parse_eq_limit_iff.1 read) (within (.tooManyDigits count))
    | tooDeep bracket => exact absurd (Json.parse_eq_limit_iff.1 read) (within (.tooDeep bracket))
    | malformed fault =>
      refine ⟨_, rfl, SettingValues.isSettled_defaults, fun _ => rfl, fun s' e isObject => ?_⟩
      obtain rfl := only e
      obtain ⟨_, read'⟩ := readable isObject
      exact absurd (read.symm.trans read') (by simp)
  | ok document =>
    refine ⟨_, rfl, SettingValues.isSettled_ofDocument document, fun noObject => ?_,
      fun s' e isObject => ?_⟩
    · cases document with
      | map entries => exact absurd (Json.isObject_of_parse read) (noObject s rfl)
      | _ => rfl
    · obtain rfl := only e
      obtain ⟨entries, read'⟩ := readable isObject
      obtain rfl := Except.ok.inj (read.symm.trans read')
      obtain ⟨members, rfl, distinct⟩ := exists_members_of_parse hasBytes read
      exact ⟨members, read, distinct, SettingValues.isUpdate_ofDocument distinct⟩

/-- What ends the reading of bytes: they are no text, or one that goes beyond a limit. -/
lemma decode_eq_error_iff {fault : Fault} : decode env bytes = .error fault ↔
    (∃ utf8Fault, fault = .undecodable utf8Fault ∧ Text.decodeUtf8 bytes = .error utf8Fault) ∨
      ∃ s limit, fault = limitFault limit ∧ bytes = String.toUTF8 s ∧
        Json.GoesBeyond env.readLevels limit (Text.unifyNewlines s) := by
  constructor
  · intro failed
    rw [decode] at failed
    split at failed
    · rename_i undecoded
      exact .inl ⟨_, (Except.error.inj failed).symm, undecoded⟩
    · rename_i decoded
      obtain ⟨s, rfl, rfl⟩ := Text.decodeUtf8_eq_ok_iff.1 decoded
      have beyond (limit : Json.Limit)
          (exceeded : Json.parse env.readLevels (Text.unifyNewlines s) = .error limit.error) :=
        Json.parse_eq_limit_iff.1 exceeded
      split at failed
      · exact absurd failed (by simp)
      · exact absurd failed (by simp)
      · rename_i count exceeded
        exact .inr ⟨s, .tooManyDigits count, (Except.error.inj failed).symm, rfl, beyond _ exceeded⟩
      · rename_i bracket exceeded
        exact .inr ⟨s, .tooDeep bracket, (Except.error.inj failed).symm, rfl, beyond _ exceeded⟩
  · rintro (⟨utf8Fault, rfl, undecoded⟩ | ⟨s, limit, rfl, rfl, goes⟩)
    · rw [decode, undecoded]
    · rw [decode, Text.decodeUtf8_toUTF8]
      dsimp only
      rw [Json.parse_eq_limit_iff.2 goes]
      cases limit <;> rfl

/-- Bytes are read exactly if they are a text that goes beyond no limit, and then give what they
should. -/
lemma exists_promised_iff :
    (∃ values, decode env bytes = .ok values ∧ Promised env.readLevels bytes values) ↔
      IsWithinLimits env.readLevels bytes := by
  constructor
  · rintro ⟨values, decoded, _⟩
    have other (fault : Fault) : decode env bytes ≠ .error fault := by
      rw [decoded]
      simp
    cases text_eq : Text.decodeUtf8 bytes with
    | error fault => exact absurd (decode_eq_error_iff.2 (.inl ⟨_, rfl, text_eq⟩)) (other _)
    | ok text =>
      obtain ⟨s, rfl, rfl⟩ := Text.decodeUtf8_eq_ok_iff.1 text_eq
      exact ⟨s, rfl, fun limit goes =>
        other _ (decode_eq_error_iff.2 (.inr ⟨s, limit, rfl, rfl, goes⟩))⟩
  · rintro ⟨s, rfl, within⟩
    exact exists_promised_of_within within

/-- Where the directory of the settings can be used and their document can be read, whatever its bytes,
they are loaded as they should be exactly if the bytes are a text that goes beyond no limit: no integer of
too many digits, and no bracket nested too deep. With any other bytes the start ends with a fault that
says which of these it is. -/
theorem load_promised_iff (home : directoryIn env = .ok directory)
    (made : fs.ensureDirectories env.cwd directory = (fs', none))
    (read : fs'.read env.cwd (Path.join directory "config.json") = .ok bytes) :
    ((∃ values, load env fs = (.ok ⟨directory, values⟩, fs') ∧
        Promised env.readLevels bytes values) ↔ IsWithinLimits env.readLevels bytes) ∧
    ∀ fault, load env fs = (.error fault, fs') ↔
      (∃ utf8Fault, fault = .undecodable utf8Fault ∧ Text.decodeUtf8 bytes = .error utf8Fault) ∨
      ∃ s limit, fault = limitFault limit ∧ bytes = String.toUTF8 s ∧
        Json.GoesBeyond env.readLevels limit (Text.unifyNewlines s) := by
  have read_eq := readFile_of_read read
  have load_ok {values : SettingValues} (decoded : decode env bytes = .ok values) :
      load env fs = (.ok ⟨directory, values⟩, fs') :=
    load_eq_ok_iff.2 ⟨home, made, read_eq.trans decoded⟩
  have load_error {fault : Fault} (decoded : decode env bytes = .error fault) :
      load env fs = (.error fault, fs') := by
    rw [load, home]
    dsimp only
    rw [made]
    dsimp only
    rw [read_eq, decoded]
  rw [← exists_promised_iff]
  refine ⟨exists_congr fun values => and_congr_left fun _ => ?_, fun fault => ?_⟩
  · cases decoded : decode env bytes with
    | error fault => simp [load_error decoded]
    | ok other => simp [load_ok decoded]
  · rw [← decode_eq_error_iff]
    cases decoded : decode env bytes with
    | error other => simp [load_error decoded]
    | ok values => simp [load_ok decoded]

/-- A document with an unknown member, and two members of which one is of its default's kind. -/
def mixedDocument : String := "\x7b\"fallback\": \"no\", \"x\": [], \"log_file\": \"/l\"\x7d"

/-- The settings of the document. -/
def mixedValues : SettingValues := [
  ("database_name", .text databaseName),
  ("fallback", .bool true),
  ("projects", .map []),
  ("log_file", .text "/l"),
  ("x", .list [])]

/-- The members of the document. -/
def mixedMembers : SettingValues := [
  ("fallback", .text "no"),
  ("x", .list []),
  ("log_file", .text "/l")]

lemma parse_mixedDocument : Json.parse 990 (Text.unifyNewlines (Text.ofString mixedDocument)) =
    .ok (.object mixedMembers) := by
  cbv

/-- What can be used of a document is loaded. -/
theorem load_promised_iff_mixedDocument :
    let fs := homeFiles (some mixedDocument.toUTF8)
    load homeEnv fs = (.ok ⟨"/h/.cdbflags", mixedValues⟩, fs) ∧
      Promised 990 mixedDocument.toUTF8 mixedValues := by
  intro fs
  have home : directoryIn homeEnv = .ok "/h/.cdbflags" := by cbv
  have made := ensureDirectories_homeFiles mixedDocument.toUTF8
  have found := read_homeFiles mixedDocument.toUTF8
  have within (limit : Json.Limit) :
      ¬ Json.GoesBeyond 990 limit (Text.unifyNewlines (Text.ofString mixedDocument)) := by
    intro goes
    have failed := Json.parse_eq_limit_iff.2 goes
    exact absurd (parse_mixedDocument.symm.trans failed) (by simp)
  have values_eq : SettingValues.ofDocument (.object mixedMembers) = mixedValues := by cbv
  have read := readFile_of_parse found (Text.decodeUtf8_toUTF8 mixedDocument) parse_mixedDocument
  rw [values_eq] at read
  have loaded : load homeEnv fs = (.ok ⟨"/h/.cdbflags", mixedValues⟩, fs) :=
    load_eq_ok_iff.2 ⟨home, made, read⟩
  obtain ⟨values, loaded', promised⟩ :=
    (load_promised_iff home made found).1.2 ⟨mixedDocument, rfl, within⟩
  obtain ⟨⟩ := loaded.symm.trans loaded'
  exact ⟨loaded, promised⟩

/-- A byte that stands in no text, as the whole document. -/
def strayByte : ByteArray := ⟨#[0xff]⟩

lemma decodeUtf8_strayByte : Text.decodeUtf8 strayByte = .error ⟨.start, 0, 1, 0xff⟩ := by
  have invalid : ¬ strayByte.IsValidUTF8 := by decide +kernel
  have bytes : strayByte.toList = [0xff] := by cbv
  have first : Text.firstUtf8Fault 0 0 [0xff] = some ⟨.start, 0, 1, 0xff⟩ := by decide
  rw [Text.decodeUtf8, String.fromUTF8?, dif_neg invalid, bytes, first]

/-- A byte that stands in no text ends the start, though the directory of the settings can be used and
their document can be read. -/
theorem load_strayByte :
    let fs := homeFiles (some strayByte)
    directoryIn homeEnv = .ok "/h/.cdbflags" ∧
      fs.ensureDirectories homeEnv.cwd "/h/.cdbflags" = (fs, none) ∧
      fs.read homeEnv.cwd (Path.join "/h/.cdbflags" "config.json") = .ok strayByte ∧
      load homeEnv fs = (.error (.undecodable ⟨.start, 0, 1, 0xff⟩), fs) ∧
      ¬ ∃ values, (load homeEnv fs).1 = .ok ⟨"/h/.cdbflags", values⟩ := by
  intro fs
  have home : directoryIn homeEnv = .ok "/h/.cdbflags" := by cbv
  have made := ensureDirectories_homeFiles strayByte
  have found := read_homeFiles strayByte
  have failed : load homeEnv fs = (.error (.undecodable ⟨.start, 0, 1, 0xff⟩), fs) := by
    rw [load, home]
    dsimp only
    rw [made]
    dsimp only
    rw [readFile_of_read found, decode, decodeUtf8_strayByte]
  refine ⟨home, made, found, failed, ?_⟩
  rintro ⟨values, loaded⟩
  rw [failed] at loaded
  exact absurd loaded (by simp)

end Settings

end CompileFlags
