import CompileFlags.Proofs.FileSystem.Writing
import Mathlib.Data.Set.Basic

/-!
# Appending to a file

Where a file is appended to, all else stays, and what was in the file goes on being its beginning
(`FileSystem.Appends`, `FileSystem.appends_append`). No path leads anywhere else than before, but to the
file once it is there, and through it as little as through nothing (`FileSystem.Appends.goal_cases`). So
directories are found as before, and so is every file whose path does not lead to the one that is
appended to (`FileSystem.Appends.isDirectory_eq`, `FileSystem.Appends.probe_eq`,
`FileSystem.Appends.read_eq`).
-/

namespace CompileFlags

namespace FileSystem

variable {fs fs' fs'' : FileSystem} {cwd : CurrentDirectory} {p : Text} {loc : Location}
  {places : Set Location} {purpose : Purpose}

/-- Whether a path leads to a place, where something is or may be made. -/
def LeadsTo (fs : FileSystem) (cwd : CurrentDirectory) (p : Text) (purpose : Purpose)
    (loc : Location) : Prop :=
  ∃ g, fs.goal cwd p purpose = .ok g ∧ g.place? = some loc

/-- The places where a file is written to at a path: one, or none if it cannot be. -/
def writtenAt (fs : FileSystem) (cwd : CurrentDirectory) (p : Text) : Set Location :=
  {loc | fs.LeadsTo cwd p .writing loc}

/-- What appending makes of what is at a place: a file, or a longer file. -/
inductive Appended : Option Node → Option Node → Prop
  | refl (node : Option Node) : Appended node node
  | made (content : ByteArray) : Appended none (some (.file content))
  | more (old new : ByteArray) : Appended (some (.file old)) (some (.file (old ++ new)))

/-- Whether file systems differ by what is appended at some places. What is refused elsewhere, and in the
directories, is refused as before. -/
structure Appends (places : Set Location) (fs fs' : FileSystem) : Prop where
  elsewhere : ∀ loc ∉ places, fs'.node? loc = fs.node? loc
  there : ∀ loc ∈ places, Appended (fs.node? loc) (fs'.node? loc)
  refusal : ∀ loc, loc ∉ places ∨ fs.node? loc = some .directory →
    ∀ request, fs'.refusal? loc request = fs.refusal? loc request

lemma Appended.trans {a b c : Option Node} (first : Appended a b) (second : Appended b c) :
    Appended a c := by
  cases first with
  | refl => exact second
  | made content =>
    cases second with
    | refl => exact .made content
    | more _ new => exact .made (content ++ new)
  | more old new =>
    cases second with
    | refl => exact .more old new
    | more _ new' =>
      rw [ByteArray.append_assoc]
      exact .more old (new ++ new')

namespace Appends

lemma refl (places : Set Location) (fs : FileSystem) : Appends places fs fs :=
  ⟨fun _ _ => rfl, fun _ _ => .refl _, fun _ _ _ => rfl⟩

/-- A place is as before, or a file is made there, or its file is longer. -/
lemma node?_cases (appends : Appends places fs fs') (loc : Location) :
    fs'.node? loc = fs.node? loc ∨
      loc ∈ places ∧ ∃ content', fs'.node? loc = some (.file content') ∧
        (fs.node? loc = none ∨ ∃ content, fs.node? loc = some (.file content)) := by
  by_cases inside : loc ∈ places
  · have appended := appends.there loc inside
    generalize fs.node? loc = before at appended
    generalize fs'.node? loc = after at appended
    cases appended with
    | refl => exact .inl rfl
    | made content => exact .inr ⟨inside, content, rfl, .inl rfl⟩
    | more old new => exact .inr ⟨inside, _, rfl, .inr ⟨old, rfl⟩⟩
  · exact .inl (appends.elsewhere loc inside)

lemma directory_iff (appends : Appends places fs fs') :
    fs'.node? loc = some .directory ↔ fs.node? loc = some .directory := by
  obtain same | ⟨_, _, after, before | ⟨_, before⟩⟩ := appends.node?_cases loc
  · rw [same]
  · rw [after, before]
    exact iff_of_false (by simp) (by simp)
  · rw [after, before]
    exact iff_of_false (by simp) (by simp)

lemma trans (first : Appends places fs fs') (second : Appends places fs' fs'') :
    Appends places fs fs'' where
  elsewhere loc out := (second.elsewhere loc out).trans (first.elsewhere loc out)
  there loc inside := (first.there loc inside).trans (second.there loc inside)
  refusal loc untouched request :=
    (second.refusal loc (untouched.imp_right first.directory_iff.2) request).trans
      (first.refusal loc untouched request)

end Appends

section Following

variable {enter enter' : Location → List Text → Except SystemError Goal} {here : Location}
  {name : Text} {names rest : List Text}

/-- How results of following a path compare before and after something is appended. What was absent may
be there; and where nothing was found behind a place, a file may be in the way. -/
inductive Alike (places : Set Location) : Except SystemError Goal → Except SystemError Goal → Prop
  | same (result : Except SystemError Goal) : Alike places result result
  | made {loc : Location} (inside : loc ∈ places) :
      Alike places (.ok (.absent loc)) (.ok (.present loc))
  | through : Alike places (.error .notFound) (.error .notDirectory)

/-- No step leads on from a file. -/
lemma follow_cons_of_not_directory (other : fs.node? here ≠ some .directory) :
    follow fs enter purpose here (name :: rest) = .error .notDirectory := by
  rw [follow]
  split
  · rename_i isDirectory
    exact absurd isDirectory other
  · rfl

/-- A step in a directory. -/
lemma follow_cons_of_directory (isDirectory : fs.node? here = some .directory) :
    follow fs enter purpose here (name :: rest) =
      if name = "" then follow fs enter purpose here rest
      else
        match fs.refusal? here .search with
        | some refusal => .error (.refused refusal)
        | none =>
          if name = "." then follow fs enter purpose here rest
          else if name = ".." then follow fs enter purpose here.dropLast rest
          else if purpose = .writing ∧ rest = [[]] then .error .isDirectory
          else if maxNameBytes < Text.byteCount name then .error .nameTooLong
          else enterName fs enter purpose here name rest := by
  rw [follow, isDirectory]
  rfl

/-- A name in a directory leads to the same, or to a file that is there now. -/
lemma enterName_alike (appends : Appends places fs fs')
    (entered : ∀ here names, Alike places (enter here names) (enter' here names))
    (behind : ∀ here, Alike places (follow fs enter purpose here rest)
      (follow fs' enter' purpose here rest)) :
    Alike places (enterName fs enter purpose here name rest)
      (enterName fs' enter' purpose here name rest) := by
  rw [enterName, enterName]
  obtain same | ⟨inside, _, after, before | ⟨_, before⟩⟩ :=
    appends.node?_cases (here ++ [name])
  · rw [same]
    split
    · exact .same _
    · split
      · exact .same _
      · exact entered _ _
    · exact behind _
  · -- a file is there now where nothing was: it is found by its own name, and no step leads on
    rw [before, after]
    dsimp only
    cases rest with
    | nil => exact .made inside
    | cons next rest =>
      rw [if_neg (List.cons_ne_nil next rest), follow_cons_of_not_directory (by simp [after])]
      exact .through
  · rw [before, after]
    exact behind _

/-- Steps lead to the same, or to a file that is there now. -/
lemma follow_alike (appends : Appends places fs fs')
    (entered : ∀ here names, Alike places (enter here names) (enter' here names))
    (here : Location) (names : List Text) :
    Alike places (follow fs enter purpose here names) (follow fs' enter' purpose here names) := by
  induction names generalizing here with
  | nil => exact .same _
  | cons name rest ih =>
    by_cases isDirectory : fs.node? here = some .directory
    · rw [follow_cons_of_directory isDirectory,
        follow_cons_of_directory (appends.directory_iff.2 isDirectory),
        appends.refusal here (.inr isDirectory) .search]
      by_cases isSlash : name = ""
      · rw [if_pos isSlash, if_pos isSlash]
        exact ih here
      rw [if_neg isSlash, if_neg isSlash]
      cases fs.refusal? here .search with
      | some refusal => exact .same _
      | none =>
        dsimp only
        split_ifs
        · exact ih here
        · exact ih here.dropLast
        · exact .same _
        · exact .same _
        · exact enterName_alike appends entered ih
    · rw [follow_cons_of_not_directory isDirectory,
        follow_cons_of_not_directory (mt appends.directory_iff.1 isDirectory)]
      exact .same _

/-- Steps lead to the same, or to a file that is there now, whatever links are on the way. -/
lemma walk_alike (appends : Appends places fs fs') (links : Nat) (here : Location)
    (names : List Text) :
    Alike places (walk fs purpose links here names) (walk fs' purpose links here names) := by
  induction links generalizing here names with
  | zero => exact follow_alike appends (fun _ _ => .same _) here names
  | succ links ih => exact follow_alike appends ih here names

/-- Steps from a directory that may have been removed lead to the same, or to a file that is there
now. -/
lemma walkFrom_alike (appends : Appends places fs fs') (removed : Nat) (here : Location)
    (names : List Text) :
    Alike places (walkFrom fs purpose removed here names)
      (walkFrom fs' purpose removed here names) := by
  induction names generalizing removed here with
  | nil =>
    cases removed with
    | zero => exact walk_alike appends maxLinks here []
    | succ removed => exact .same _
  | cons name rest ih =>
    cases removed with
    | zero => exact walk_alike appends maxLinks here (name :: rest)
    | succ removed =>
      rw [walkFrom, walkFrom]
      split_ifs
      · exact ih (removed + 1) here
      · exact ih removed here.dropLast
      · exact .same _
      · exact .same _

end Following

namespace Appends

/-- A path leads to the same, or to a file that is there now, or no longer to nothing but to a file that
is in the way. -/
lemma goal_cases (appends : Appends places fs fs') (cwd : CurrentDirectory) (p : Text)
    (purpose : Purpose) :
    fs'.goal cwd p purpose = fs.goal cwd p purpose ∨
      (∃ loc ∈ places, fs.goal cwd p purpose = .ok (.absent loc) ∧
        fs'.goal cwd p purpose = .ok (.present loc)) ∨
      (fs.goal cwd p purpose = .error (.system .notFound p) ∧
        fs'.goal cwd p purpose = .error (.system .notDirectory p)) := by
  have alike : Alike places (fs.resolve cwd p purpose) (fs'.resolve cwd p purpose) := by
    rw [resolve, resolve]
    split_ifs
    · exact .same _
    · exact .same _
    · exact walk_alike appends _ _ _
    · exact walkFrom_alike appends _ _ _
  rw [goal, goal]
  cases pathFault? p with
  | some fault => exact .inl rfl
  | none =>
    dsimp only
    generalize fs.resolve cwd p purpose = before at alike
    generalize fs'.resolve cwd p purpose = after at alike
    cases alike with
    | same => exact .inl rfl
    | made inside => exact .inr (.inl ⟨_, inside, rfl, rfl⟩)
    | through => exact .inr (.inr ⟨rfl, rfl⟩)

/-- A path leads to the places it led to. -/
lemma leadsTo_iff (appends : Appends places fs fs') :
    fs'.LeadsTo cwd p purpose loc ↔ fs.LeadsTo cwd p purpose loc := by
  rw [LeadsTo, LeadsTo]
  obtain same | ⟨_, _, before, after⟩ | ⟨before, after⟩ := appends.goal_cases cwd p purpose
  · rw [same]
  · rw [before, after]
    simp [Goal.place?]
  · rw [before, after]
    simp

/-- A file is written where it would have been. -/
lemma writtenAt_eq (appends : Appends places fs fs') : fs'.writtenAt cwd p = fs.writtenAt cwd p :=
  Set.ext fun _ => appends.leadsTo_iff

/-- What is found at a path that leads to no place that is appended to is found again; and where nothing
is found, a file may be in the way. -/
lemma status_cases (appends : Appends places fs fs')
    (apart : ∀ loc ∈ places, ¬ fs.LeadsTo cwd p .content loc) :
    fs'.status cwd p = fs.status cwd p ∨
      fs.status cwd p = .error (.system .notFound p) ∧
        fs'.status cwd p = .error (.system .notDirectory p) := by
  rw [status, status]
  obtain same | ⟨loc, inside, before, _⟩ | ⟨before, after⟩ := appends.goal_cases cwd p .content
  · rw [same]
    left
    cases found : fs.goal cwd p .content with
    | error fault => rfl
    | ok g =>
      cases g with
      | absent loc => rfl
      | removed => rfl
      | present loc =>
        have out : loc ∉ places := fun inside => apart loc inside ⟨_, found, rfl⟩
        dsimp only
        rw [appends.elsewhere loc out]
  · exact absurd ⟨_, before, rfl⟩ (apart loc inside)
  · rw [before, after]
    exact .inr ⟨rfl, rfl⟩

/-- A look at a path gives the same answer. -/
lemma probe_eq (appends : Appends places fs fs')
    (apart : ∀ loc ∈ places, ¬ fs.LeadsTo cwd p .content loc) :
    fs'.probe cwd p = fs.probe cwd p := by
  rw [probe, probe]
  obtain same | ⟨before, after⟩ := appends.status_cases apart
  · rw [same]
  · rw [before, after]
    rfl

/-- The same paths have files. -/
lemma isFile_eq (appends : Appends places fs fs')
    (apart : ∀ loc ∈ places, ¬ fs.LeadsTo cwd p .content loc) :
    fs'.isFile cwd p = fs.isFile cwd p := by
  rw [isFile, isFile]
  obtain same | ⟨before, after⟩ := appends.status_cases apart
  · rw [same]
  · rw [before, after]

/-- A file is read as before. -/
lemma read_eq (appends : Appends places fs fs')
    (apart : ∀ loc ∈ places, ¬ fs.LeadsTo cwd p .content loc)
    (isFile : fs.isFile cwd p = true) : fs'.read cwd p = fs.read cwd p := by
  obtain ⟨content, found⟩ := isFile_iff.1 isFile
  obtain ⟨loc, leads, _⟩ | ⟨_, other⟩ := status_eq_ok_iff.1 found
  · have out : loc ∉ places := fun inside => apart loc inside ⟨_, leads, rfl⟩
    have status_eq : fs'.status cwd p = fs.status cwd p := by
      obtain same | ⟨before, _⟩ := appends.status_cases apart
      · exact same
      · exact absurd (found.symm.trans before) (by simp)
    have leads' : fs'.goal cwd p .content = .ok (.present loc) := by
      obtain same | ⟨_, _, before, _⟩ | ⟨before, _⟩ := appends.goal_cases cwd p .content
      · exact same.trans leads
      · exact absurd (leads.symm.trans before) (by simp)
      · exact absurd (leads.symm.trans before) (by simp)
    rw [read, read, status_eq, place?, place?, leads, leads', Option.bind_some, Option.bind_some,
      appends.refusal loc (.inl out)]
  · exact absurd other (by simp)

/-- The same paths have directories, wherever they lead. -/
lemma isDirectory_eq (appends : Appends places fs fs') (cwd : CurrentDirectory) (p : Text) :
    fs'.isDirectory cwd p = fs.isDirectory cwd p := by
  rw [Bool.eq_iff_iff, isDirectory_iff, isDirectory_iff, status_eq_ok_iff, status_eq_ok_iff]
  obtain same | ⟨loc, _, before, after⟩ | ⟨before, after⟩ := appends.goal_cases cwd p .content
  · rw [same]
    simp only [appends.directory_iff]
  · have nothing := node?_of_goal_absent before
    have noDirectory : fs'.node? loc ≠ some .directory := by
      rw [Ne, appends.directory_iff, nothing]
      exact Option.some_ne_none _ ∘ Eq.symm
    rw [before, after]
    simp [noDirectory]
  · rw [before, after]
    simp

end Appends

/-- Appending to a file appends there. -/
theorem appends_append {content : ByteArray} (appended : fs.append cwd p content = .ok fs') :
    Appends (fs.writtenAt cwd p) fs fs' := by
  obtain ⟨loc, found, nothing, rfl⟩ | ⟨loc, old, found, there, _, rfl⟩ := update_cases appended
  · have ne : loc ≠ [] := ne_nil_of_node? (nothing.trans_ne (by simp))
    constructor
    case elsewhere =>
      intro other out
      rw [node?_make ne, if_neg]
      rintro rfl
      exact out ⟨_, found, rfl⟩
    case there =>
      rintro other ⟨g', found', leads'⟩
      obtain rfl := Except.ok.inj (found.symm.trans found')
      obtain rfl := Option.some.inj leads'
      rw [node?_make ne, if_pos rfl, nothing]
      exact .made _
    case refusal =>
      intro other untouched request
      rw [refusal?_make, if_neg]
      rintro rfl
      obtain out | isDirectory := untouched
      · exact out ⟨_, found, rfl⟩
      · exact absurd (nothing.symm.trans isDirectory) (by simp)
  · have ne : loc ≠ [] := ne_nil_of_node? (there.trans_ne (by simp))
    constructor
    case elsewhere =>
      intro other out
      rw [node?_set ne, if_neg]
      rintro rfl
      exact out ⟨_, found, rfl⟩
    case there =>
      rintro other ⟨g', found', leads'⟩
      obtain rfl := Except.ok.inj (found.symm.trans found')
      obtain rfl := Option.some.inj leads'
      rw [node?_set ne, if_pos rfl, there]
      exact .more old content
    case refusal =>
      intro other _ request
      rfl

end FileSystem

end CompileFlags
