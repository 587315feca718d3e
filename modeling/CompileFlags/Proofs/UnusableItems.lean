import CompileFlags.DirectoryMap
import CompileFlags.Proofs.Database

/-!
# Unusable items

An item of a database has no entry for one of a few reasons (`Entry.ofValue?_eq_none_iff`), and is then
counted and passed over. Each item is looked at by itself, so the entries of two arrays in a row are
those of the one and of the other (`Database.entries_ofItems_append`), and unusable items between the
others change the count alone (`Database.Pads.entries_eq`); what is answered from the entries stays
the same. What no item does by itself is to end the reading, unless it has a path that cannot be
resolved: it names a user that cannot be looked up, or it is relative and the current directory has been
removed (`Database.parse_local`).
-/

namespace CompileFlags

/-- Why an item of a database has no entry. -/
inductive Entry.IsUnusable (env : Env) : Value → Prop where
  /-- It is no object. -/
  | noObject {item : Value} : (∀ members, item ≠ .map members) → IsUnusable env item
  /-- It names no file or no directory. -/
  | noSource {item : Value} {c : BuildCommand} :
    BuildCommand.ofValue? item = some c → c.source? = none → IsUnusable env item
  /-- It has neither a command line nor a list of arguments. -/
  | noWords {item : Value} {c : BuildCommand} :
    BuildCommand.ofValue? item = some c → c.command = none → c.arguments = none →
    IsUnusable env item
  /-- Its command line is not well quoted. -/
  | unquoted {item : Value} {c : BuildCommand} {line : Text} {fault : Command.Incomplete} :
    BuildCommand.ofValue? item = some c → c.command = some line →
    Command.split line = .error fault → IsUnusable env item
  /-- No option is left of its words. -/
  | noOptions {item : Value} {c : BuildCommand} {file directory : Text} {words : List Text} :
    BuildCommand.ofValue? item = some c → c.source? = some (file, directory) →
    c.words? = some words →
    stripOptions env (Path.expand env file directory) directory (words.drop 1) = [] →
    IsUnusable env item

namespace BuildCommand

variable {c : BuildCommand} {env : Env} {item : Value}

lemma ofValue?_eq_none_iff : ofValue? item = none ↔ ∀ members, item ≠ .map members := by
  cases item with
  | scalar s => simp [ofValue?]
  | list items => simp [ofValue?]
  | map members => simp [ofValue?]

lemma words?_eq_none_iff :
    c.words? = none ↔ (c.command = none ∧ c.arguments = none) ∨
      ∃ line fault, c.command = some line ∧ Command.split line = .error fault := by
  rw [words?]
  cases c.command with
  | none => simp
  | some line =>
    cases h : Command.split line with
    | ok words => simp [Except.toOption, h]
    | error fault => simp [Except.toOption, h]

/-- A build command is of no use if it lacks a source or words, or if no option is left. -/
lemma normalize?_eq_none_iff :
    c.normalize? env = none ↔ c.source? = none ∨ c.words? = none ∨
      ∃ file directory words, c.source? = some (file, directory) ∧ c.words? = some words ∧
        stripOptions env (Path.expand env file directory) directory (words.drop 1) = [] := by
  rw [Option.eq_none_iff_forall_ne_some]
  constructor
  · intro useless
    cases source : c.source? with
    | none => exact .inl rfl
    | some place =>
      obtain ⟨file, directory⟩ := place
      cases split : c.words? with
      | none => exact .inr (.inl rfl)
      | some words =>
        refine .inr (.inr ⟨file, directory, words, rfl, rfl, ?_⟩)
        by_contra ne
        exact useless ⟨_, _, directory⟩
          (normalize?_eq_some_iff.2 ⟨file, words, source, split, rfl, rfl, ne⟩)
  · intro reason e made
    obtain ⟨file, words, source, split, file_eq, options_eq, ne⟩ := normalize?_eq_some_iff.1 made
    rcases reason with noSource | noWords | ⟨_, _, _, source', split', nothing⟩
    · exact absurd (source.symm.trans noSource) (by simp)
    · exact absurd (split.symm.trans noWords) (by simp)
    · obtain ⟨rfl, rfl⟩ := Prod.mk.inj (Option.some.inj (source.symm.trans source'))
      obtain rfl := Option.some.inj (split.symm.trans split')
      rw [← file_eq, ← options_eq] at nothing
      exact ne nothing

end BuildCommand

/-- An item has no entry exactly for one of the reasons. -/
lemma Entry.ofValue?_eq_none_iff {env : Env} {item : Value} :
    ofValue? env item = none ↔ IsUnusable env item := by
  rw [ofValue?, Option.bind_eq_none_iff]
  constructor
  · intro useless
    cases read : BuildCommand.ofValue? item with
    | none => exact .noObject (BuildCommand.ofValue?_eq_none_iff.1 read)
    | some c =>
      rcases BuildCommand.normalize?_eq_none_iff.1 (useless c read) with
        noSource | noWords | ⟨file, directory, words, source, split, nothing⟩
      · exact .noSource read noSource
      · rcases BuildCommand.words?_eq_none_iff.1 noWords with ⟨command, arguments⟩ | ⟨line, fault, h⟩
        · exact .noWords read command arguments
        · exact .unquoted read h.1 h.2
      · exact .noOptions read source split nothing
  · intro unusable c read
    apply BuildCommand.normalize?_eq_none_iff.2
    cases unusable with
    | noObject noMembers =>
      exact absurd (read.symm.trans (BuildCommand.ofValue?_eq_none_iff.2 noMembers)) (by simp)
    | noSource read' noSource =>
      obtain rfl := Option.some.inj (read.symm.trans read')
      exact .inl noSource
    | noWords read' command arguments =>
      obtain rfl := Option.some.inj (read.symm.trans read')
      exact .inr (.inl (BuildCommand.words?_eq_none_iff.2 (.inl ⟨command, arguments⟩)))
    | unquoted read' command failed =>
      obtain rfl := Option.some.inj (read.symm.trans read')
      exact .inr (.inl (BuildCommand.words?_eq_none_iff.2 (.inr ⟨_, _, command, failed⟩)))
    | noOptions read' source split nothing =>
      obtain rfl := Option.some.inj (read.symm.trans read')
      exact .inr (.inr ⟨_, _, _, source, split, nothing⟩)

namespace Database

variable {env : Env} {path : Text} {items padded : List Value} {count : Nat}

lemma entries_ofItems_append (env : Env) (path : Text) (earlier later : List Value) :
    (ofItems env path (earlier ++ later)).entries =
      (ofItems env path earlier).entries ++ (ofItems env path later).entries :=
  List.filterMap_append

lemma dropped_ofItems_append (env : Env) (path : Text) (earlier later : List Value) :
    (ofItems env path (earlier ++ later)).dropped =
      (ofItems env path earlier).dropped + (ofItems env path later).dropped :=
  List.countP_append

lemma fault?_append (env : Env) (earlier later : List Value) :
    fault? env (earlier ++ later) = (fault? env earlier).or (fault? env later) := by
  rw [fault?, List.filterMap_append, List.findSome?_append, fault?, fault?]

/-- Every item has an entry or is counted. -/
lemma length_entries_add_dropped (env : Env) (path : Text) (items : List Value) :
    (ofItems env path items).entries.length + (ofItems env path items).dropped =
      items.length := by
  induction items with
  | nil => rfl
  | cons item items ih =>
    have one : (ofItems env path [item]).entries.length + (ofItems env path [item]).dropped = 1 := by
      rw [ofItems]
      dsimp only
      cases h : Entry.ofValue? env item with
      | none => simp [h]
      | some e => simp [h]
    rw [← List.singleton_append, entries_ofItems_append, dropped_ofItems_append,
      List.length_append, List.length_append, ← ih, List.length_singleton, ← one]
    omega

/-- Whether items are others with so many unusable ones put in between. -/
inductive Pads (env : Env) : List Value → List Value → Nat → Prop where
  | nil : Pads env [] [] 0
  | keep {items padded : List Value} {count : Nat} (item : Value) :
    Pads env items padded count → Pads env (item :: items) (item :: padded) count
  | insert {items padded : List Value} {count : Nat} {item : Value} :
    Entry.IsUnusable env item → Pads env items padded count →
    Pads env items (item :: padded) (count + 1)

/-- Unusable items give no entries. -/
lemma Pads.entries_eq (pads : Pads env items padded count) :
    (ofItems env path padded).entries = (ofItems env path items).entries := by
  induction pads with
  | nil => rfl
  | @keep items padded count item _ ih =>
    rw [← List.singleton_append, entries_ofItems_append, ih, ← entries_ofItems_append,
      List.singleton_append]
  | @insert items padded count item unusable _ ih =>
    rw [← ih]
    exact List.filterMap_cons_none (Entry.ofValue?_eq_none_iff.2 unusable)

/-- Unusable items are counted. -/
lemma Pads.dropped_eq (pads : Pads env items padded count) :
    (ofItems env path padded).dropped = (ofItems env path items).dropped + count := by
  induction pads with
  | nil => rfl
  | @keep items padded count item _ ih =>
    rw [← List.singleton_append, dropped_ofItems_append, ih, ← Nat.add_assoc,
      ← dropped_ofItems_append, List.singleton_append]
  | @insert items padded count item unusable _ ih =>
    rw [← Nat.add_assoc, ← ih]
    apply List.countP_cons_of_pos (p := fun item => (Entry.ofValue? env item).isNone)
    rw [Entry.ofValue?_eq_none_iff.2 unusable]
    rfl

/-- Items can be resolved if they can with others in between. -/
lemma Pads.fault?_eq_none (pads : Pads env items padded count) (resolved : fault? env padded = none) :
    fault? env items = none := by
  induction pads with
  | nil => rfl
  | @keep items padded count item _ ih =>
    rw [← List.singleton_append, fault?_append, Option.or_eq_none_iff] at resolved ⊢
    exact ⟨resolved.1, ih resolved.2⟩
  | @insert items padded count item unusable _ ih =>
    rw [← List.singleton_append, fault?_append, Option.or_eq_none_iff] at resolved
    exact ih resolved.2

/-- Whether a text is an array of some items. -/
def IsArray (env : Env) (text : Text) (items : List Value) : Prop :=
  Json.parse env.readLevels text = .ok (.list items)

variable {text : Text}

/-- An array is read if its paths can be resolved. -/
lemma parse_of_fault?_eq_none (isArray : IsArray env text items) (resolved : fault? env items = none) :
    parse env path text = .ok (ofItems env path items) :=
  parse_eq_ok_iff.2 ⟨items, isArray, resolved, rfl⟩

/-- An array that is read has paths that can be resolved. -/
lemma fault?_eq_none_of_parse {db : Database} (isArray : IsArray env text items)
    (parsed : parse env path text = .ok db) :
    fault? env items = none ∧ db = ofItems env path items := by
  obtain ⟨others, isArray', resolved, e⟩ := parse_eq_ok_iff.1 parsed
  obtain ⟨⟩ := isArray.symm.trans isArray'
  exact ⟨resolved, e⟩

/-- An array is not read if one of its paths cannot be resolved. -/
lemma parse_of_fault? {fault : Fault} (isArray : IsArray env text items)
    (failed : fault? env items = some fault) : parse env path text = .error fault := by
  rw [parse, ofText, isArray]
  dsimp only
  rw [failed]

/-- The answers from a database are made from its entries. -/
lemma nearest_congr {db db' : Database} (same : db.entries = db'.entries) (file : Text) :
    db.nearest env file = db'.nearest env file := by
  rw [nearest, nearest, DirectoryMap.build, DirectoryMap.build, DirectoryMap.ofDatabase,
    DirectoryMap.ofDatabase, same]

/-- Items are looked at one by one. An array is read unless one of its paths cannot be resolved: the file
of an item, or an argument that may be the file too. Each item is then an entry or counted. What is read
of two arrays in a row is what is read of the one and of the other. Unusable items in between change the
count alone, and no answer. -/
theorem parse_local (env : Env) (path : Text) :
    (∀ text items, IsArray env text items →
      (fault? env items = none → ∃ db, parse env path text = .ok db ∧
        db.entries.length + db.dropped = items.length) ∧
      ∀ fault, fault? env items = some fault → parse env path text = .error fault) ∧
    (∀ items, fault? env items = none ↔
      ∀ item ∈ items, ∀ c, BuildCommand.ofValue? item = some c →
        ∀ file directory, c.source? = some (file, directory) →
          ∀ p ∈ file :: relevantArguments ((c.words?.getD []).drop 1),
            ∃ q, Path.resolve env p directory = .ok q) ∧
    (∀ earlier later both items others, IsArray env earlier items → IsArray env later others →
      IsArray env both (items ++ others) →
      ∀ db, parse env path both = .ok db ↔ ∃ a b, parse env path earlier = .ok a ∧
        parse env path later = .ok b ∧
        db = ⟨path, a.entries ++ b.entries, a.dropped + b.dropped⟩) ∧
    (∀ text other items padded count, IsArray env text items → IsArray env other padded →
      Pads env items padded count → fault? env padded = none →
      ∃ db db', parse env path text = .ok db ∧ parse env path other = .ok db' ∧
        db'.dropped = db.dropped + count ∧
        ∀ file, db'.entriesFor file = db.entriesFor file ∧
          db'.nearest env file = db.nearest env file) := by
  refine ⟨?_, ?_, ?_, ?_⟩
  · intro text items isArray
    refine ⟨fun resolved => ?_, fun fault => parse_of_fault? isArray⟩
    exact ⟨_, parse_of_fault?_eq_none isArray resolved, length_entries_add_dropped env path items⟩
  · intro items
    simp only [fault?_eq_none_iff, Path.resolve_eq_ok_iff, exists_and_left, exists_eq, and_true]
  · intro earlier later both items others first second isArray db
    -- each item is looked at on its own, so an append goes through all that is read
    have append_eq : ofItems env path (items ++ others) =
        ⟨path, (ofItems env path items).entries ++ (ofItems env path others).entries,
          (ofItems env path items).dropped + (ofItems env path others).dropped⟩ := by
      rw [← entries_ofItems_append, ← dropped_ofItems_append]
      rfl
    constructor
    · intro parsed
      obtain ⟨resolved, e⟩ := fault?_eq_none_of_parse isArray parsed
      rw [fault?_append, Option.or_eq_none_iff] at resolved
      exact ⟨_, _, parse_of_fault?_eq_none first resolved.1, parse_of_fault?_eq_none second resolved.2,
        e.trans append_eq⟩
    · rintro ⟨a, b, parsedFirst, parsedSecond, rfl⟩
      obtain ⟨resolved, rfl⟩ := fault?_eq_none_of_parse first parsedFirst
      obtain ⟨resolved', rfl⟩ := fault?_eq_none_of_parse second parsedSecond
      rw [← append_eq]
      apply parse_of_fault?_eq_none isArray
      rw [fault?_append, resolved, resolved']
      rfl
  · intro text other items padded count isArray isArray' pads resolved
    refine ⟨_, _, parse_of_fault?_eq_none isArray (pads.fault?_eq_none resolved),
      parse_of_fault?_eq_none isArray' resolved, pads.dropped_eq, fun file => ?_⟩
    exact ⟨by rw [entriesFor, entriesFor, pads.entries_eq], nearest_congr pads.entries_eq file⟩

/-- A build command with its file in its directory. -/
def soundItem : Value := .map [
  (.text "directory", .text "/"), (.text "file", .text "a"),
  (.text "arguments", .list [.text "", .text "-D"])]

/-- A build command in a relative directory, whose command line is not well quoted. -/
def unquotedItem : Value := .map [
  (.text "directory", .text "d"), (.text "file", .text "b"), (.text "command", .text "'")]

/-- The text of the one. -/
def soundText : Text :=
  "[\x7b\"directory\":\"/\",\"file\":\"a\",\"arguments\":[\"\",\"-D\"]\x7d]"

/-- The text of the other. -/
def unquotedText : Text := "[\x7b\"directory\":\"d\",\"file\":\"b\",\"command\":\"'\"\x7d]"

/-- The text of both. -/
def paddedText : Text :=
  "[\x7b\"directory\":\"d\",\"file\":\"b\",\"command\":\"'\"\x7d," ++
    "\x7b\"directory\":\"/\",\"file\":\"a\",\"arguments\":[\"\",\"-D\"]\x7d]"

/-- A current directory below the root, so many names of which have been removed. -/
def removable (removed : Nat) : Env := { home := "/", cwd := ⟨["w"], removed⟩, clock := 0 }

lemma isArray_soundText (removed : Nat) : IsArray (removable removed) soundText [soundItem] := by
  rw [IsArray]
  cbv

lemma isArray_unquotedText (removed : Nat) :
    IsArray (removable removed) unquotedText [unquotedItem] := by
  rw [IsArray]
  cbv

lemma isArray_paddedText (removed : Nat) :
    IsArray (removable removed) paddedText [unquotedItem, soundItem] := by
  rw [IsArray]
  cbv

lemma pads_soundItem (env : Env) : Pads env [soundItem] [unquotedItem, soundItem] 1 := by
  have unquoted : Entry.IsUnusable env unquotedItem :=
    .unquoted (c := ⟨some "d", some "b", some "'", none⟩) rfl rfl (by cbv)
  exact .insert unquoted (.keep soundItem .nil)

/-- Where the current directory is there, the unusable item is counted, and no answer changes. -/
theorem parse_local_paddedText :
    let env := removable 0
    IsArray env unquotedText [unquotedItem] ∧ IsArray env soundText [soundItem] ∧
      IsArray env paddedText [unquotedItem, soundItem] ∧
      Pads env [soundItem] [unquotedItem, soundItem] 1 ∧
      parse env "db" paddedText = .ok ⟨"db", [⟨"/a", ["-D"], "/"⟩], 1⟩ ∧
      (∃ db, parse env "db" paddedText = .ok db ∧ db.entries.length + db.dropped = 2) ∧
      ∃ db db', parse env "db" soundText = .ok db ∧ parse env "db" paddedText = .ok db' ∧
        db'.dropped = db.dropped + 1 ∧
        ∀ file, db'.entriesFor file = db.entriesFor file ∧
          db'.nearest env file = db.nearest env file := by
  intro env
  obtain ⟨read, _, rows, between⟩ := parse_local env "db"
  have resolved : fault? env [unquotedItem, soundItem] = none := by cbv
  have unquoted : parse env "db" unquotedText = .ok ⟨"db", [], 1⟩ := by cbv
  have sound : parse env "db" soundText = .ok ⟨"db", [⟨"/a", ["-D"], "/"⟩], 0⟩ := by cbv
  have both := (rows unquotedText soundText paddedText [unquotedItem] [soundItem]
    (isArray_unquotedText 0) (isArray_soundText 0) (isArray_paddedText 0) _).2
      ⟨_, _, unquoted, sound, rfl⟩
  exact ⟨isArray_unquotedText 0, isArray_soundText 0, isArray_paddedText 0, pads_soundItem env, both,
    (read _ _ (isArray_paddedText 0)).1 resolved,
    between _ _ _ _ _ (isArray_soundText 0) (isArray_paddedText 0) (pads_soundItem env) resolved⟩

/-- Where the current directory has been removed, the unusable item ends the reading, since its file
cannot be located. -/
theorem parse_removed :
    let env := removable 1
    IsArray env soundText [soundItem] ∧ IsArray env paddedText [unquotedItem, soundItem] ∧
      Pads env [soundItem] [unquotedItem, soundItem] 1 ∧
      parse env "db" soundText = .ok ⟨"db", [⟨"/a", ["-D"], "/"⟩], 0⟩ ∧
      parse env "db" paddedText = .error .noCurrentDirectory := by
  intro env
  have sound : parse env "db" soundText = .ok ⟨"db", [⟨"/a", ["-D"], "/"⟩], 0⟩ := by cbv
  have unresolved : fault? env [unquotedItem, soundItem] = some .noCurrentDirectory := by cbv
  exact ⟨isArray_soundText 1, isArray_paddedText 1, pads_soundItem env, sound,
    parse_of_fault? (isArray_paddedText 1) unresolved⟩

end Database

end CompileFlags
