import CompileFlags.FileSystem.Access
import CompileFlags.Proofs.OrderedMap

/-!
# What stays in a growing file system

A file system grows if its directories and links stay as they are, a file stays a file, and what is
refused at a place stays the same (`FileSystem.Grows`). Then a path that leads to a place goes on leading there
(`FileSystem.goal_of_grows`), so a file or a directory that is found goes on being found
(`FileSystem.isFile_of_grows`, `FileSystem.isDirectory_of_grows`). This holds for an absent place too,
once something is put there; the links on the way are the same as before.
-/

namespace CompileFlags

namespace FileSystem

/-- The place that a goal names, whether or not something is there. -/
def Goal.place? : Goal → Option Location
  | .present loc => some loc
  | .absent loc => some loc
  | .removed => none

/-- Whether a file system has what another one has: its directories and links, and files where it has
files. What is refused there is refused as before. -/
structure Grows (fs fs' : FileSystem) : Prop where
  directory : ∀ {loc}, fs.node? loc = some .directory → fs'.node? loc = some .directory
  link : ∀ {loc target}, fs.node? loc = some (.link target) → fs'.node? loc = some (.link target)
  file : ∀ {loc content}, fs.node? loc = some (.file content) →
    ∃ content', fs'.node? loc = some (.file content')
  refusal : ∀ {loc node}, fs.node? loc = some node →
    ∀ request, fs'.refusal? loc request = fs.refusal? loc request

variable {fs fs' fs'' : FileSystem} {cwd : CurrentDirectory} {p : Text} {loc : Location} {node : Node}

/-- A file system has what it has. -/
lemma Grows.refl (fs : FileSystem) : Grows fs fs := ⟨id, id, fun h => ⟨_, h⟩, fun _ _ => rfl⟩

/-- A place stays taken. -/
lemma Grows.exists_of_some (grows : Grows fs fs') (there : fs.node? loc = some node) :
    ∃ node', fs'.node? loc = some node' := by
  cases node with
  | directory => exact ⟨_, grows.directory there⟩
  | file content =>
    obtain ⟨content', there'⟩ := grows.file there
    exact ⟨_, there'⟩
  | link target => exact ⟨_, grows.link there⟩

/-- What is kept twice is kept. -/
lemma Grows.trans (first : Grows fs fs') (second : Grows fs' fs'') : Grows fs fs'' where
  directory h := second.directory (first.directory h)
  link h := second.link (first.link h)
  file h := by
    obtain ⟨_, h⟩ := first.file h
    exact second.file h
  refusal h request := by
    obtain ⟨_, h'⟩ := first.exists_of_some h
    exact (second.refusal h' request).trans (first.refusal h request)

/-- What is found at a place after something has been put at one. -/
lemma node?_set (ne : loc ≠ []) (node : Node) (other : Location) :
    (fs.set loc node).node? other = if other = loc then some node else fs.node? other := by
  rw [node?, node?, set, OrderedMap.get?_put]
  by_cases root : other = []
  · rw [if_pos root, if_pos root, if_neg (root ▸ Ne.symm ne)]
  · rw [if_neg root, if_neg root]

/-- What is found at a place after something has been made at one. -/
lemma node?_make (ne : loc ≠ []) (node : Node) (other : Location) :
    (fs.make loc node).node? other = if other = loc then some node else fs.node? other := by
  have same : (fs.make loc node).node? other = (fs.set loc node).node? other := rfl
  rw [same, node?_set ne]

/-- Nothing is refused at a place that has been made, and all other places are as before. -/
lemma refusal?_make (fs : FileSystem) (loc : Location) (node : Node) (other : Location)
    (request : Request) :
    (fs.make loc node).refusal? other request =
      if other = loc then none else fs.refusal? other request := by
  rw [refusal?, refusal?, make]
  induction fs.refusals with
  | nil => simp [OrderedMap.get?]
  | cons entry refusals ih =>
    by_cases own : entry.1.1 = loc
    · rw [List.filter_cons_of_neg (by simpa using own), ih, OrderedMap.get?]
      by_cases same : other = loc
      · rw [if_pos same, if_pos same]
      · have ne : ¬ (entry.1 == (other, request)) = true := by
          rw [beq_iff_eq]
          rintro e
          exact same ((congrArg Prod.fst e).symm.trans own)
        rw [if_neg same, if_neg same, if_neg ne]
    · rw [List.filter_cons_of_pos (by simpa using own), OrderedMap.get?, OrderedMap.get?, ih]
      by_cases asked : (entry.1 == (other, request)) = true
      · have ne : ¬ other = loc := fun same =>
          own ((congrArg Prod.fst (beq_iff_eq.1 asked)).trans same)
        rw [if_pos asked, if_pos asked, if_neg ne]
      · rw [if_neg asked, if_neg asked]

/-- A place that is not a directory is not the root. -/
lemma ne_nil_of_node? (h : fs.node? loc ≠ some .directory) : loc ≠ [] := by
  rintro rfl
  exact h rfl

/-- Nothing is lost where a file is written over a file. -/
lemma grows_set_file {old : ByteArray} (content : ByteArray)
    (isFile : fs.node? loc = some (.file old)) : Grows fs (fs.set loc (.file content)) := by
  have ne : loc ≠ [] := ne_nil_of_node? (isFile.trans_ne (by simp))
  have other {place : Location} {node : Node} (there : fs.node? place = some node)
      (noFile : ∀ old, node ≠ .file old) : (fs.set loc (.file content)).node? place = some node := by
    rw [node?_set ne, if_neg, there]
    rintro rfl
    exact noFile old (Option.some.inj (there.symm.trans isFile))
  refine ⟨fun there => other there (by simp), fun there => other there (by simp),
    fun {place old} there => ?_, fun _ _ => rfl⟩
  rw [node?_set ne]
  split
  · exact ⟨content, rfl⟩
  · exact ⟨old, there⟩

/-- Nothing is lost where something is made where nothing was. -/
lemma grows_make (node : Node) (nothing : fs.node? loc = none) : Grows fs (fs.make loc node) := by
  have ne : loc ≠ [] := ne_nil_of_node? (nothing.trans_ne (by simp))
  have apart {place : Location} {found : Node} (there : fs.node? place = some found) : place ≠ loc := by
    rintro rfl
    exact absurd (there.symm.trans nothing) (by simp)
  have stays {place : Location} {found : Node} (there : fs.node? place = some found) :
      (fs.make loc node).node? place = some found := by
    rw [node?_make ne, if_neg (apart there), there]
  refine ⟨stays, stays, fun there => ⟨_, stays there⟩, fun there request => ?_⟩
  rw [refusal?_make, if_neg (apart there)]

/-- What is no link is none after growth. -/
lemma Grows.exists_node? (grows : Grows fs fs') (there : fs.node? loc = some node)
    (noLink : ∀ target, node ≠ .link target) :
    ∃ node', fs'.node? loc = some node' ∧ ∀ target, node' ≠ .link target := by
  cases node with
  | directory => exact ⟨_, grows.directory there, noLink⟩
  | file content =>
    obtain ⟨content', there'⟩ := grows.file there
    exact ⟨_, there', by simp⟩
  | link target => exact absurd rfl (noLink target)

section Following

variable {enter enter' : Location → List Text → Except SystemError Goal} {purpose purpose' : Purpose}
  {here : Location} {name : Text} {names rest : List Text} {goal : Goal} {removed : Nat}

/-- Where a name in a directory leads, with more names behind it. -/
def enterName (fs : FileSystem) (enter : Location → List Text → Except SystemError Goal)
    (purpose : Purpose) (here : Location) (name : Text) (rest : List Text) :
    Except SystemError Goal :=
  match fs.node? (here ++ [name]) with
  | none => if rest = [] then .ok (.absent (here ++ [name])) else .error .notFound
  | some (.link target) =>
    if rest = [] ∧ purpose = .name then .ok (.present (here ++ [name]))
    else enter (if Path.isAbsolute target then [] else here) (steps target ++ rest)
  | some _ => follow fs enter purpose (here ++ [name]) rest

/-- A first step that is no more than a slash stays in its directory. Any other one searches it, which
must not be refused, and stays there, goes up from it, or is a name in it. -/
lemma follow_cons_eq_ok_iff : follow fs enter purpose here (name :: rest) = .ok goal ↔
    fs.node? here = some .directory ∧
      if name = "" then follow fs enter purpose here rest = .ok goal
      else fs.refusal? here .search = none ∧
        if name = "." then follow fs enter purpose here rest = .ok goal
        else if name = ".." then follow fs enter purpose here.dropLast rest = .ok goal
        else ¬ (purpose = .writing ∧ rest = [[]]) ∧ ¬ maxNameBytes < Text.byteCount name ∧
          enterName fs enter purpose here name rest = .ok goal := by
  rw [follow]
  split
  · rename_i isDirectory
    rw [and_iff_right isDirectory]
    by_cases isSlash : name = ""
    · rw [if_pos isSlash, if_pos isSlash]
    rw [if_neg isSlash, if_neg isSlash]
    cases fs.refusal? here .search with
    | some refusal => exact iff_of_false (by simp) (by simp)
    | none =>
      rw [and_iff_right rfl]
      dsimp only
      by_cases isSelf : name = "."
      · rw [if_pos isSelf, if_pos isSelf]
      by_cases isUp : name = ".."
      · rw [if_neg isSelf, if_neg isSelf, if_pos isUp, if_pos isUp]
      rw [if_neg isSelf, if_neg isSelf, if_neg isUp, if_neg isUp]
      by_cases atSlash : purpose = .writing ∧ rest = [[]]
      · rw [if_pos atSlash]
        exact iff_of_false (by simp) fun h => h.1 atSlash
      by_cases long : maxNameBytes < Text.byteCount name
      · rw [if_neg atSlash, if_pos long]
        exact iff_of_false (by simp) fun h => h.2.1 long
      · rw [if_neg atSlash, if_neg long, and_iff_right atSlash, and_iff_right long]
        rfl
  · rename_i other
    exact iff_of_false (by simp) fun h => other h.1

/-- A name that leads to a place goes on leading there, if what is behind it does. -/
lemma enterName_of_grows (grows : Grows fs fs') (there : fs'.node? loc = some node)
    (noLink : ∀ target, node ≠ .link target)
    (entered : ∀ {here names goal}, enter here names = .ok goal → goal.place? = some loc →
      ∃ found, enter' here names = .ok (.present found) ∧ (purpose' ≠ .name → found = loc))
    (behind : ∀ {here}, follow fs enter purpose here rest = .ok goal →
      ∃ found, follow fs' enter' purpose' here rest = .ok (.present found) ∧
        (purpose' ≠ .name → found = loc))
    (followed : enterName fs enter purpose here name rest = .ok goal)
    (leads : goal.place? = some loc) :
    ∃ found, enterName fs' enter' purpose' here name rest = .ok (.present found) ∧
      (purpose' ≠ .name → found = loc) := by
  rw [enterName] at followed ⊢
  split at followed
  · -- nothing was there, so this is the place, where something is now
    split at followed
    · rename_i last
      obtain ⟨⟩ := followed
      obtain rfl := Option.some.inj leads
      rw [last, there]
      cases node with
      | directory => exact ⟨_, rfl, fun _ => rfl⟩
      | file content => exact ⟨_, rfl, fun _ => rfl⟩
      | link target => exact absurd rfl (noLink target)
    · exact absurd followed (by simp)
  · rename_i target isLink
    rw [grows.link isLink]
    dsimp only
    split at followed
    · obtain ⟨⟩ := followed
      obtain rfl := Option.some.inj leads
      obtain rfl := Option.some.inj (there.symm.trans (grows.link isLink))
      exact absurd rfl (noLink target)
    · -- the link was entered; where only the name is asked for, it need not be any more
      split
      · rename_i stop
        exact ⟨_, rfl, fun ne => absurd stop.2 ne⟩
      · exact entered followed leads
  · -- what was there may have grown, but it has not become a link
    rename_i node' found isNode
    obtain ⟨node'', there', noLink'⟩ := grows.exists_node? isNode found
    rw [there']
    cases node'' with
    | directory => exact behind followed
    | file content => exact behind followed
    | link target => exact absurd rfl (noLink' target)

/-- Steps that lead to a place go on leading there, if something but a link is there now. -/
lemma follow_of_grows (grows : Grows fs fs') (there : fs'.node? loc = some node)
    (noLink : ∀ target, node ≠ .link target)
    (writing : purpose' = .writing → purpose = .writing)
    (entered : ∀ {here names goal}, enter here names = .ok goal → goal.place? = some loc →
      ∃ found, enter' here names = .ok (.present found) ∧ (purpose' ≠ .name → found = loc))
    (followed : follow fs enter purpose here names = .ok goal) (leads : goal.place? = some loc) :
    ∃ found, follow fs' enter' purpose' here names = .ok (.present found) ∧
      (purpose' ≠ .name → found = loc) := by
  induction names generalizing here with
  | nil =>
    obtain ⟨⟩ := followed
    exact ⟨here, rfl, fun _ => Option.some.inj leads⟩
  | cons name rest ih =>
    obtain ⟨isDirectory, followed⟩ := follow_cons_eq_ok_iff.1 followed
    have refusal_eq := grows.refusal isDirectory .search
    simp only [follow_cons_eq_ok_iff, grows.directory isDirectory, true_and]
    split at followed
    · rename_i isSlash
      simp only [if_pos isSlash]
      exact ih followed
    rename_i notSlash
    obtain ⟨searchable, followed⟩ := followed
    simp only [if_neg notSlash, refusal_eq.trans searchable, true_and]
    split at followed
    · rename_i isSelf
      simp only [if_pos isSelf]
      exact ih followed
    rename_i notSelf
    split at followed
    · rename_i isUp
      simp only [if_neg notSelf, if_pos isUp]
      exact ih followed
    · rename_i notUp
      obtain ⟨notAtSlash, short, followed⟩ := followed
      obtain ⟨found, followed', place_eq⟩ :=
        enterName_of_grows grows there noLink entered ih followed leads
      simp only [if_neg notSelf, if_neg notUp]
      exact ⟨found, ⟨fun h => notAtSlash ⟨writing h.1, h.2⟩, short, followed'⟩, place_eq⟩

/-- Steps that lead to a place go on leading there, whatever links are on the way. -/
lemma walk_of_grows (grows : Grows fs fs') (there : fs'.node? loc = some node)
    (noLink : ∀ target, node ≠ .link target)
    (writing : purpose' = .writing → purpose = .writing) {links : Nat}
    (walked : walk fs purpose links here names = .ok goal)
    (leads : goal.place? = some loc) :
    ∃ found, walk fs' purpose' links here names = .ok (.present found) ∧
      (purpose' ≠ .name → found = loc) := by
  induction links generalizing here names goal with
  | zero =>
    exact follow_of_grows grows there noLink writing (fun failed => absurd failed (by simp)) walked
      leads
  | succ links ih =>
    exact follow_of_grows grows there noLink writing (fun entered leads => ih entered leads) walked
      leads

/-- What a goal says of the file system: nothing is at an absent place. No path from outside leads
into a directory that has been removed. -/
def Goal.Fits (fs : FileSystem) : Goal → Prop
  | .present _ => True
  | .absent loc => fs.node? loc = none
  | .removed => False

/-- What steps lead to fits the file system, if what is behind links does. -/
lemma follow_fits
    (entered : ∀ {here names goal}, enter here names = .ok goal → Goal.Fits fs goal)
    (followed : follow fs enter purpose here names = .ok goal) : goal.Fits fs := by
  induction names generalizing here with
  | nil =>
    obtain ⟨⟩ := followed
    exact trivial
  | cons name rest ih =>
    obtain ⟨_, followed⟩ := follow_cons_eq_ok_iff.1 followed
    split at followed
    · exact ih followed
    obtain ⟨_, followed⟩ := followed
    split at followed
    · exact ih followed
    split at followed
    · exact ih followed
    obtain ⟨_, _, followed⟩ := followed
    rw [enterName] at followed
    split at followed
    · rename_i nothing
      split at followed
      · obtain ⟨⟩ := followed
        exact nothing
      · exact absurd followed (by simp)
    · split at followed
      · obtain ⟨⟩ := followed
        exact trivial
      · exact entered followed
    · exact ih followed

/-- What steps lead to fits the file system, whatever links are on the way. -/
lemma walk_fits {links : Nat} (walked : walk fs purpose links here names = .ok goal) :
    goal.Fits fs := by
  induction links generalizing here names goal with
  | zero => exact follow_fits (fun failed => absurd failed (by simp)) walked
  | succ links ih => exact follow_fits (fun entered => ih entered) walked

/-- Steps from a directory that may have been removed stay among what is removed, or come out at a
place. Which of the two does not depend on what else there is. -/
lemma walkFrom_cases (walked : walkFrom fs purpose removed here names = .ok goal) :
    (goal = .removed ∧ ∀ fs' purpose', walkFrom fs' purpose' removed here names = .ok .removed) ∨
      ∃ out rest, ∀ fs' purpose',
        walkFrom fs' purpose' removed here names = walk fs' purpose' maxLinks out rest := by
  induction names generalizing removed here with
  | nil =>
    cases removed with
    | zero => exact .inr ⟨here, [], fun _ _ => rfl⟩
    | succ removed =>
      obtain ⟨⟩ := walked
      exact .inl ⟨rfl, fun _ _ => rfl⟩
  | cons name rest ih =>
    cases removed with
    | zero => exact .inr ⟨here, name :: rest, fun _ _ => rfl⟩
    | succ removed =>
      simp only [walkFrom] at walked ⊢
      by_cases isSelf : name = "" ∨ name = "."
      · simp only [if_pos isSelf] at walked ⊢
        exact ih walked
      by_cases isUp : name = ".."
      · simp only [if_neg isSelf, if_pos isUp] at walked ⊢
        exact ih walked
      rw [if_neg isSelf, if_neg isUp] at walked
      split at walked
      · exact absurd walked (by simp)
      · exact absurd walked (by simp)

/-- Nothing is at an absent place. -/
lemma walkFrom_absent
    (walked : walkFrom fs purpose removed here names = .ok (.absent loc)) : fs.node? loc = none := by
  obtain ⟨other, _⟩ | ⟨out, rest, walk_eq⟩ := walkFrom_cases walked
  · exact absurd other (by simp)
  · exact walk_fits ((walk_eq fs purpose).symm.trans walked)

/-- Steps from a directory that may have been removed go on leading to a place. -/
lemma walkFrom_of_grows (grows : Grows fs fs') (there : fs'.node? loc = some node)
    (noLink : ∀ target, node ≠ .link target)
    (writing : purpose' = .writing → purpose = .writing)
    (walked : walkFrom fs purpose removed here names = .ok goal) (leads : goal.place? = some loc) :
    ∃ found, walkFrom fs' purpose' removed here names = .ok (.present found) ∧
      (purpose' ≠ .name → found = loc) := by
  obtain ⟨rfl, _⟩ | ⟨out, rest, walk_eq⟩ := walkFrom_cases walked
  · exact absurd leads (Option.some_ne_none loc).symm
  · rw [walk_eq] at walked ⊢
    exact walk_of_grows grows there noLink writing walked leads

/-- Steps into a directory that has been removed lead there, whatever else there is. -/
lemma walkFrom_eq_removed (fs' : FileSystem) (purpose' : Purpose)
    (walked : walkFrom fs purpose removed here names = .ok .removed) :
    walkFrom fs' purpose' removed here names = .ok .removed := by
  obtain ⟨_, stays⟩ | ⟨out, rest, walk_eq⟩ := walkFrom_cases walked
  · exact stays fs' purpose'
  · exact (walk_fits ((walk_eq fs purpose).symm.trans walked)).elim

end Following

/-- A path leads to a goal if it may be used at all, and its steps lead there. -/
lemma goal_eq_ok_iff {purpose : Purpose} {g : Goal} :
    fs.goal cwd p purpose = .ok g ↔ pathFault? p = none ∧ p ≠ "" ∧
      Text.byteCount p < maxPathBytes ∧
      (if Path.isAbsolute p then walk fs purpose maxLinks [] (steps p)
        else walkFrom fs purpose cwd.removed cwd.place (steps p)) = .ok g := by
  rw [goal]
  cases pathFault? p with
  | some fault => simp
  | none =>
    by_cases empty : p = ""
    · simp [resolve, empty]
    by_cases long : maxPathBytes ≤ Text.byteCount p
    · rw [resolve, if_neg empty, if_pos long]
      simp [Nat.not_lt.2 long]
    · rw [resolve, if_neg empty, if_neg long]
      simp only [ne_eq, empty, not_false_eq_true, Nat.not_le.1 long, true_and]
      split
      · rename_i followed
        rw [followed]
        simp
      · rename_i failed
        rw [failed]
        simp

/-- A path that leads to a place goes on leading there, if something but a link is there now. -/
lemma goal_of_grows (grows : Grows fs fs') (there : fs'.node? loc = some node)
    (noLink : ∀ target, node ≠ .link target) {purpose : Purpose} (purpose' : Purpose)
    (writing : purpose' = .writing → purpose = .writing) {g : Goal}
    (found : fs.goal cwd p purpose = .ok g) (leads : g.place? = some loc) :
    ∃ place, fs'.goal cwd p purpose' = .ok (.present place) ∧ (purpose' ≠ .name → place = loc) := by
  obtain ⟨noFault, notEmpty, short, walked⟩ := goal_eq_ok_iff.1 found
  have onward : ∃ place, (if Path.isAbsolute p then walk fs' purpose' maxLinks [] (steps p)
      else walkFrom fs' purpose' cwd.removed cwd.place (steps p)) = .ok (.present place) ∧
      (purpose' ≠ .name → place = loc) := by
    by_cases isAbsolute : Path.isAbsolute p = true
    · rw [if_pos isAbsolute] at walked ⊢
      exact walk_of_grows grows there noLink writing walked leads
    · rw [if_neg isAbsolute] at walked ⊢
      exact walkFrom_of_grows grows there noLink writing walked leads
  obtain ⟨place, walked', place_eq⟩ := onward
  exact ⟨place, goal_eq_ok_iff.2 ⟨noFault, notEmpty, short, walked'⟩, place_eq⟩

/-- A path into a directory that has been removed leads there, whatever else there is. -/
lemma goal_eq_removed {purpose : Purpose} (fs' : FileSystem) (purpose' : Purpose)
    (found : fs.goal cwd p purpose = .ok .removed) : fs'.goal cwd p purpose' = .ok .removed := by
  obtain ⟨noFault, notEmpty, short, walked⟩ := goal_eq_ok_iff.1 found
  rw [goal_eq_ok_iff]
  refine ⟨noFault, notEmpty, short, ?_⟩
  by_cases isAbsolute : Path.isAbsolute p = true
  · rw [if_pos isAbsolute] at walked
    exact (walk_fits walked).elim
  · rw [if_neg isAbsolute] at walked ⊢
    exact walkFrom_eq_removed fs' purpose' walked

/-- Nothing is where a path leads to an absent place. -/
lemma node?_of_goal_absent {purpose : Purpose} (found : fs.goal cwd p purpose = .ok (.absent loc)) :
    fs.node? loc = none := by
  obtain ⟨_, _, _, walked⟩ := goal_eq_ok_iff.1 found
  split at walked
  · exact walk_fits walked
  · exact walkFrom_absent walked

/-- What is found at a path: the node at its place, or a directory that has been removed. -/
lemma status_eq_ok_iff : fs.status cwd p = .ok node ↔
    (∃ loc, fs.goal cwd p .content = .ok (.present loc) ∧ fs.node? loc = some node) ∨
      (fs.goal cwd p .content = .ok .removed ∧ node = .directory) := by
  rw [status]
  cases fs.goal cwd p .content with
  | error fault => simp
  | ok g =>
    cases g with
    | absent loc => simp
    | removed => simp [eq_comm]
    | present loc =>
      dsimp only
      cases found : fs.node? loc with
      | none => simp [found]
      | some there => simp [found]

/-- A file is read if it is found and the system lets it be read. -/
lemma read_eq_ok_iff {content : ByteArray} : fs.read cwd p = .ok content ↔
    ∃ loc, fs.goal cwd p .content = .ok (.present loc) ∧ fs.node? loc = some (.file content) ∧
      fs.refusal? loc .read = none := by
  constructor
  · intro read_eq
    rw [read] at read_eq
    split at read_eq
    · exact absurd read_eq (by simp)
    · exact absurd read_eq (by simp)
    · rename_i found readable
      obtain ⟨⟩ := read_eq
      obtain ⟨loc, leads, there⟩ | ⟨_, other⟩ := status_eq_ok_iff.1 found
      · rw [place?, leads] at readable
        exact ⟨loc, leads, there, readable⟩
      · exact absurd other (by simp)
    · exact absurd read_eq (by simp)
  · rintro ⟨loc, leads, there, readable⟩
    have place_eq : (fs.place? cwd p .content).bind (fs.refusal? · .read) = none := by
      rw [place?, leads]
      exact readable
    rw [read, status_eq_ok_iff.2 (.inl ⟨loc, leads, there⟩), place_eq]

/-- What is read is found. -/
lemma status_of_read {content : ByteArray} (read_eq : fs.read cwd p = .ok content) :
    fs.status cwd p = .ok (.file content) := by
  obtain ⟨loc, leads, there, _⟩ := read_eq_ok_iff.1 read_eq
  exact status_eq_ok_iff.2 (.inl ⟨loc, leads, there⟩)

/-- What is found at a path is the answer to a look at it. -/
lemma probe_of_status (found : fs.status cwd p = .ok node) :
    fs.probe cwd p = .ok (some node) := by
  rw [probe, found]

/-- The answer to a look at a path is what is found there. -/
lemma status_of_probe (probed : fs.probe cwd p = .ok (some node)) : fs.status cwd p = .ok node := by
  rw [probe] at probed
  split at probed
  · rename_i found
    obtain ⟨⟩ := probed
    exact found
  · split at probed
    · exact absurd probed (by simp)
    · exact absurd probed (by simp)
  · exact absurd probed (by simp)

/-- A file at a path. -/
lemma isFile_iff : fs.isFile cwd p = true ↔ ∃ content, fs.status cwd p = .ok (.file content) := by
  rw [isFile]
  split
  · rename_i found
    simp [found]
  · rename_i notFile
    simp only [Bool.false_eq_true, false_iff, not_exists]
    exact notFile

/-- A directory at a path. -/
lemma isDirectory_iff : fs.isDirectory cwd p = true ↔ fs.status cwd p = .ok .directory := by
  rw [isDirectory]
  split
  · rename_i found
    simp [found]
  · rename_i notDirectory
    simp only [Bool.false_eq_true, false_iff]
    exact notDirectory

/-- Where a file is found, a file goes on being found. -/
lemma isFile_of_grows (grows : Grows fs fs') (isFile : fs.isFile cwd p = true) :
    fs'.isFile cwd p = true := by
  obtain ⟨content, found⟩ := isFile_iff.1 isFile
  obtain ⟨loc, found, there⟩ | ⟨_, other⟩ := status_eq_ok_iff.1 found
  · obtain ⟨content', there'⟩ := grows.file there
    obtain ⟨_, found', place_eq⟩ := goal_of_grows grows there' (by simp) .content (by simp) found rfl
    obtain rfl := place_eq (by simp)
    exact isFile_iff.2 ⟨content', status_eq_ok_iff.2 (.inl ⟨_, found', there'⟩)⟩
  · exact absurd other (by simp)

/-- Where a directory is found, it goes on being found. -/
lemma isDirectory_of_grows (grows : Grows fs fs') (isDirectory : fs.isDirectory cwd p = true) :
    fs'.isDirectory cwd p = true := by
  refine isDirectory_iff.2 (status_eq_ok_iff.2 ?_)
  obtain ⟨loc, found, there⟩ | ⟨found, _⟩ := status_eq_ok_iff.1 (isDirectory_iff.1 isDirectory)
  · have there' := grows.directory there
    obtain ⟨_, found', place_eq⟩ := goal_of_grows grows there' (by simp) .content (by simp) found rfl
    obtain rfl := place_eq (by simp)
    exact .inl ⟨_, found', there'⟩
  · exact .inr ⟨goal_eq_removed fs' _ found, rfl⟩

end FileSystem

end CompileFlags
