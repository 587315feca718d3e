import CompileFlags.Proofs.Settings.Operations

/-!
# Settings that two hold

Who has loaded settings changes a copy of them in memory, and each change writes all of that copy;
nothing is read in between. So where two hold the settings of one home directory, the file has in
the end what was registered by the one that wrote last, and what had been registered when that one
loaded the settings; what the other has registered since is lost (`Settings.projects_of_callAll`).
What a call writes depends on the copy of the caller alone (`Settings.IsHeld.addProject`), and after
any run of calls the file has the copy of the last caller (`Settings.hasProjects_of_callAll`).
-/

namespace CompileFlags

/-- Nothing but a text is read as one. -/
lemma Value.reread_eq_text {v : Value} {t : Text} (read : v.reread = .text t) : v = .text t := by
  cases v with
  | scalar s =>
    cases s with
    | float x => exact absurd read (by simp [Value.reread, Scalar.reread])
    | _ => exact read
  | list items => exact absurd read (by simp [Value.reread])
  | map entries => exact absurd read (by simp [Value.reread])

namespace Projects

variable {p q r : Projects} {root other : Text} {value v : Value} {registrations : List (Text × Text)}

/-- What is registered after a registration: it, and what was registered for other roots. -/
lemma mem_insert : (other, v) ∈ p.insert root value ↔
    other = root ∧ v = value ∨ other ≠ root ∧ (other, v) ∈ p := by
  rw [insert]
  split
  · rename_i known
    constructor
    · intro mem
      obtain ⟨project, there, e⟩ := List.mem_map.1 mem
      split at e
      · obtain ⟨⟩ := e
        exact .inl ⟨rfl, rfl⟩
      · rename_i ne
        obtain rfl := e
        exact .inr ⟨ne, there⟩
    · rintro (⟨rfl, rfl⟩ | ⟨ne, there⟩)
      · obtain ⟨project, there, root_eq⟩ := List.mem_map.1 (List.contains_iff_mem.1 known)
        exact List.mem_map.2 ⟨project, there, if_pos root_eq⟩
      · exact List.mem_map.2 ⟨_, there, if_neg ne⟩
  · rename_i new
    have notThere (there : (root, v) ∈ p) : False :=
      new (List.contains_iff_mem.2 (List.mem_map_of_mem there))
    rw [List.mem_append, List.mem_singleton, Prod.mk.injEq, or_comm]
    refine or_congr_right ⟨fun there => ⟨?_, there⟩, And.right⟩
    rintro rfl
    exact notThere there

lemma mem_roots_insert : other ∈ (p.insert root value).map Prod.fst ↔
    other = root ∨ other ∈ p.map Prod.fst := by
  constructor
  · intro mem
    obtain ⟨⟨other, v⟩, inserted, rfl⟩ := List.mem_map.1 mem
    obtain ⟨e, _⟩ | ⟨_, there⟩ := mem_insert.1 inserted
    · exact .inl e
    · exact .inr (List.mem_map_of_mem there)
  · intro known
    by_cases e : other = root
    · exact List.mem_map.2 ⟨(other, value), mem_insert.2 (.inl ⟨e, rfl⟩), rfl⟩
    · obtain ⟨⟨other, v⟩, there, rfl⟩ := List.mem_map.1 (known.resolve_left e)
      exact List.mem_map_of_mem (mem_insert.2 (.inr ⟨e, there⟩))

/-- Registers databases for roots, one after the other. -/
def registerAll (p : Projects) (registrations : List (Text × Text)) : Projects :=
  registrations.foldl (fun p r => p.insert r.1 (.text r.2)) p

/-- What is registered stays, unless its root is registered anew. -/
lemma mem_registerAll_of_mem (mem : (root, value) ∈ p)
    (other : root ∉ registrations.map Prod.fst) : (root, value) ∈ p.registerAll registrations := by
  induction registrations generalizing p with
  | nil => exact mem
  | cons r registrations ih =>
    rw [List.map_cons, List.mem_cons, not_or] at other
    exact ih (mem_insert.2 (.inr ⟨other.1, mem⟩)) other.2

/-- Of registrations for different roots, all are there in the end. -/
lemma mem_registerAll (distinct : (registrations.map Prod.fst).Nodup) {database : Text}
    (mem : (root, database) ∈ registrations) :
    (root, .text database) ∈ p.registerAll registrations := by
  induction registrations generalizing p with
  | nil => exact absurd mem List.not_mem_nil
  | cons r registrations ih =>
    obtain ⟨new, distinct⟩ := List.nodup_cons.1 distinct
    obtain rfl | mem := List.mem_cons.1 mem
    · have first : (root, Value.text database) ∈ p.insert root (.text database) :=
        mem_insert.2 (.inl ⟨rfl, rfl⟩)
      exact mem_registerAll_of_mem (p := p.insert root (.text database)) first new
    · exact ih distinct mem

lemma mem_roots_registerAll : root ∈ (p.registerAll registrations).map Prod.fst ↔
    root ∈ registrations.map Prod.fst ∨ root ∈ p.map Prod.fst := by
  induction registrations generalizing p with
  | nil => simp [registerAll]
  | cons r registrations ih =>
    refine ih.trans ?_
    rw [mem_roots_insert, List.map_cons, List.mem_cons, or_left_comm, or_assoc]

/-- Whether maps have the same roots, and the same paths registered for them. -/
structure Alike (p q : Projects) : Prop where
  roots : ∀ root, root ∈ p.map Prod.fst ↔ root ∈ q.map Prod.fst
  paths : ∀ root database, (root, .text database) ∈ p ↔ (root, .text database) ∈ q

namespace Alike

lemma refl (p : Projects) : Alike p p := ⟨fun _ => Iff.rfl, fun _ _ => Iff.rfl⟩

lemma trans (first : Alike p q) (second : Alike q r) : Alike p r :=
  ⟨fun root => (first.roots root).trans (second.roots root),
    fun root database => (first.paths root database).trans (second.paths root database)⟩

/-- The same registration makes the same difference. -/
lemma insert (alike : Alike p q) (root : Text) (value : Value) :
    Alike (p.insert root value) (q.insert root value) where
  roots other := by rw [mem_roots_insert, mem_roots_insert, alike.roots]
  paths other database := by rw [mem_insert, mem_insert, alike.paths]

/-- The same registrations make the same difference. -/
lemma registerAll (alike : Alike p q) (registrations : List (Text × Text)) :
    Alike (p.registerAll registrations) (q.registerAll registrations) := by
  induction registrations generalizing p q with
  | nil => exact alike
  | cons r registrations ih => exact ih (alike.insert r.1 (.text r.2))

end Alike

/-- Paths are read as they were written. -/
lemma alike_reread (p : Projects) : Alike (p.map fun project => (project.1, project.2.reread)) p where
  roots root := by rw [List.map_map]; rfl
  paths root database := by
    rw [List.mem_map]
    constructor
    · rintro ⟨⟨root, value⟩, there, e⟩
      obtain ⟨rfl, reread⟩ := Prod.mk.inj e
      obtain rfl : value = .text database := Value.reread_eq_text reread
      exact there
    · exact fun there => ⟨_, there, rfl⟩

end Projects

namespace Settings

variable {env : Env} {fs fs' : FileSystem} {s s' : Settings} {root database : Text}

/-- Whether settings can be kept where they were loaded from. -/
structure IsHeld (env : Env) (s : Settings) : Prop where
  home : directoryIn env = .ok s.directory
  settled : s.values.IsSettled
  writable : Json.IsWritable env.readLevels (.object s.values)

lemma isHeld_of_load (loaded : load env fs = (.ok s, fs')) : IsHeld env s :=
  ⟨(load_eq_ok_iff.1 loaded).1, isSettled_of_load loaded, isWritable_of_load loaded⟩

/-- Settings that are loaded from files, which can be read, have the same projects as others, but for what
reading makes of values that are no paths. -/
def HasProjects (env : Env) (fs : FileSystem) (projects : Projects) : Prop :=
  ∃ s, load env fs = (.ok s, fs) ∧ IsOpen env fs s ∧ s.projects.Alike projects

namespace IsHeld

variable {others : Projects}

/-- The projects of settings that are held are a map that can be written. -/
lemma get_projects (held : IsHeld env s) :
    s.values.get "projects" = .object s.projects ∧
      Json.IsWritable (env.readLevels - 1) (.object s.projects) :=
  Settings.get_projects held.settled held.writable

/-- Where settings have been saved, they are in the file. -/
lemma hasProjects_of_save (held : IsHeld env s) (had : HasProjects env fs others)
    (saved : save env fs s = ⟨s', fs', .ok ()⟩) : HasProjects env fs' s.projects := by
  obtain ⟨⟨directory, values⟩, loaded, isOpen, _⟩ := had
  obtain ⟨home, made, _⟩ := load_eq_ok_iff.1 loaded
  obtain rfl : s.directory = directory := Except.ok.inj (held.home.symm.trans home)
  have loaded' : load env fs' = (.ok ⟨s.directory, s.values.reread⟩, fs') :=
    load_of_save (s := ⟨s.directory, values⟩) loaded isOpen held.settled held.writable saved
  obtain ⟨_, _, _, made', written⟩ := exists_write_of_save saved
  obtain rfl := (Prod.mk.inj (made.symm.trans made')).1
  have isOpen' := FileSystem.isReadable_of_read (FileSystem.read_write isOpen written)
  refine ⟨⟨s.directory, s.values.reread⟩, loaded', isOpen', ?_⟩
  have projects_eq : (⟨s.directory, s.values.reread⟩ : Settings).projects =
      s.projects.map fun project => (project.1, project.2.reread) := by
    rw [Settings.projects, SettingValues.get_reread, held.get_projects.1, Value.object, Value.reread,
      rereadEntries_entriesOf, ← Value.object, Value.members_object]
  rw [projects_eq]
  exact s.projects.alike_reread

/-- A registration is added to what is held, and all of that is written, whatever the file held
before. -/
theorem addProject (held : IsHeld env s) (had : HasProjects env fs others)
    (separableRoot : Json.IsSeparable root) (separableDatabase : Json.IsSeparable database)
    (added : (s.addProject env fs root database).outcome = .ok (s', fs')) :
    IsHeld env s' ∧ s'.projects = s.projects.insert root (.text database) ∧
      HasProjects env fs' s'.projects := by
  have writable := held.get_projects.2
  let kept : Settings := { s with
    values := OrderedMap.put "projects" (.object (s.projects.insert root (.text database))) s.values }
  have keptHeld : IsHeld env kept := by
    have writableDatabase : Json.IsWritable (env.readLevels - 1 - 1) (.text database) :=
      .scalar separableDatabase
    have writable' := writable.put separableRoot writableDatabase
    rw [Projects.put_eq_insert writable.of_object.2.2.1] at writable'
    have separable : Json.IsSeparable "projects" := Json.isSeparable_of_hasBytes (by decide)
    exact ⟨held.home, held.settled.put (SettingValues.hasKind_projects _),
      held.writable.put separable writable'⟩
  rw [addProject_eq_set held.settled held.writable] at added
  have saved : save env fs kept = ⟨s', fs', .ok ()⟩ := save_of_set added
  obtain ⟨rfl, _⟩ := exists_write_of_save saved
  refine ⟨keptHeld, ?_, keptHeld.hasProjects_of_save had saved⟩
  rw [Settings.projects, SettingValues.get, OrderedMap.get?_put, if_pos rfl]
  exact Value.members_object _

/-- Registrations of one holder are added to what is held, and all of that is in the file. -/
lemma performAll {registrations : List (Text × Text)} (held : IsHeld env s)
    (hasProjects : HasProjects env fs s.projects)
    (separable : ∀ r ∈ registrations, Json.IsSeparable r.1 ∧ Json.IsSeparable r.2)
    (ran : performAll env (registrations.map fun r => .addProject r.1 r.2) (s, fs) = .ok (s', fs')) :
    IsHeld env s' ∧ s'.projects = s.projects.registerAll registrations ∧
      HasProjects env fs' s'.projects := by
  induction registrations generalizing s fs with
  | nil =>
    obtain ⟨⟩ := ran
    exact ⟨held, rfl, hasProjects⟩
  | cons r registrations ih =>
    obtain ⟨first, others⟩ := List.forall_mem_cons.1 separable
    rw [List.map_cons, Settings.performAll, Operation.perform] at ran
    split at ran
    · exact absurd ran (by simp)
    · rename_i state added
      obtain ⟨s₁, fs₁⟩ := state
      obtain ⟨held₁, projects_eq, hasProjects₁⟩ := held.addProject hasProjects first.1 first.2 added
      obtain ⟨held', projects_eq', hasProjects'⟩ := ih held₁ hasProjects₁ others ran
      refine ⟨held', ?_, hasProjects'⟩
      rw [projects_eq', projects_eq]
      rfl

end IsHeld

/-- A registration by one of two holders. -/
structure Call where
  who : Bool
  root : Text
  database : Text

/-- What is registered by a call. -/
def Call.registration (c : Call) : Text × Text := (c.root, c.database)

/-- Makes calls in turn, as long as they succeed. Each changes what its holder has, and the files. -/
def callAll (env : Env) : List Call → (Bool → Settings) × FileSystem →
    Except Fault ((Bool → Settings) × FileSystem)
  | [], state => .ok state
  | c :: calls, (held, fs) =>
    match ((held c.who).addProject env fs c.root c.database).outcome with
    | .error fault => .error fault
    | .ok (s, fs) => callAll env calls (Function.update held c.who s, fs)

/-- What one of two registers by calls. -/
def registrationsOf (who : Bool) (calls : List Call) : List (Text × Text) :=
  (calls.filter (·.who = who)).map Call.registration

/-- Calls of the one that calls last are what is registered by it. -/
lemma registrationsOf_cons (who : Bool) (c : Call) (calls : List Call) :
    registrationsOf who (c :: calls) =
      if c.who = who then c.registration :: registrationsOf who calls
      else registrationsOf who calls := by
  rw [registrationsOf, List.filter_cons]
  by_cases own : c.who = who
  · rw [if_pos own, if_pos (decide_eq_true own)]
    rfl
  · rw [if_neg own, if_neg (by simpa using own)]
    rfl

/-- What a run of calls leaves in the file: what the one that calls last held before, and what it has
registered. -/
lemma hasProjects_of_callAll {held held' : Bool → Settings} {calls : List Call} {last : Call}
    {others : Projects} (isHeld : ∀ who, IsHeld env (held who)) (had : HasProjects env fs others)
    (separable : ∀ c ∈ calls ++ [last], Json.IsSeparable c.root ∧ Json.IsSeparable c.database)
    (ran : callAll env (calls ++ [last]) (held, fs) = .ok (held', fs')) :
    HasProjects env fs' ((held last.who).projects.registerAll
      (registrationsOf last.who (calls ++ [last]))) := by
  induction calls generalizing held fs others with
  | nil =>
    obtain ⟨separableRoot, separableDatabase⟩ := separable last List.mem_cons_self
    rw [List.nil_append, callAll] at ran
    split at ran
    · exact absurd ran (by simp)
    · rename_i added
      obtain ⟨⟩ := ran
      obtain ⟨_, projects_eq, hasProjects⟩ :=
        (isHeld last.who).addProject had separableRoot separableDatabase added
      rw [projects_eq] at hasProjects
      rw [List.nil_append, registrationsOf_cons, if_pos rfl]
      exact hasProjects
  | cons c calls ih =>
    obtain ⟨first, rest⟩ := List.forall_mem_cons.1 separable
    rw [List.cons_append, callAll] at ran
    split at ran
    · exact absurd ran (by simp)
    · rename_i s₁ fs₁ added
      obtain ⟨held₁, projects_eq, had₁⟩ := (isHeld c.who).addProject had first.1 first.2 added
      -- the other one still holds what it held, whatever the file is now
      have isHeld₁ (who : Bool) : IsHeld env (Function.update held c.who s₁ who) := by
        by_cases own : who = c.who
        · rw [own, Function.update_self]
          exact held₁
        · rw [Function.update_of_ne own]
          exact isHeld who
      have hasProjects := ih isHeld₁ had₁ rest ran
      rw [List.cons_append, registrationsOf_cons]
      by_cases own : c.who = last.who
      · rw [← own, Function.update_self, projects_eq, own] at hasProjects
        rw [if_pos own]
        exact hasProjects
      · rw [Function.update_of_ne (Ne.symm own)] at hasProjects
        rw [if_neg own]
        exact hasProjects

/-- What two leave in the file that hold the settings of one home directory, where each call registers
another root, and the file can be read if it is there. The one has loaded them and registered
databases alone before the other loads them; then both register databases in any order. What was
registered alone is there, and so is what is registered by the one that calls last. What the other one
registers is lost, unless its root was registered from the start. -/
theorem projects_of_callAll {fs₁ fs₂ fs₃ fs₄ : FileSystem} {a a' b : Settings}
    {held : Bool → Settings} {alone : List (Text × Text)} {calls : List Call} {last : Call}
    (loadedFirst : load env fs = (.ok a, fs₁)) (isOpen : IsOpen env fs₁ a)
    (ranAlone : performAll env (alone.map fun r => .addProject r.1 r.2) (a, fs₁) = .ok (a', fs₂))
    (loadedSecond : load env fs₂ = (.ok b, fs₃))
    (ran : callAll env (calls ++ [last]) (fun who => bif who then b else a', fs₃) =
      .ok (held, fs₄))
    (separable : ∀ r ∈ alone ++ (calls ++ [last]).map Call.registration,
      Json.IsSeparable r.1 ∧ Json.IsSeparable r.2)
    (distinct : ((alone ++ (calls ++ [last]).map Call.registration).map Prod.fst).Nodup) :
    ∃ s, load env fs₄ = (.ok s, fs₄) ∧
      (∀ r ∈ alone, (r.1, .text r.2) ∈ s.projects) ∧
      (∀ c ∈ calls ++ [last], c.who = last.who → (c.root, .text c.database) ∈ s.projects) ∧
      (∀ c ∈ calls ++ [last], c.who ≠ last.who → c.root ∉ a.projects.map Prod.fst →
        c.root ∉ s.projects.map Prod.fst) ∧
      ∀ root ∈ a.projects.map Prod.fst, root ∈ s.projects.map Prod.fst := by
  rw [List.map_append, List.nodup_append] at distinct
  obtain ⟨distinctAlone, distinctCalls, disjoint⟩ := distinct
  obtain ⟨separableAlone, separableCalls⟩ := List.forall_mem_append.1 separable
  have savedFirst : HasProjects env fs₁ a.projects := ⟨a, load_of_load loadedFirst, isOpen, .refl _⟩
  obtain ⟨isHeld, projects_eq, had⟩ :=
    (isHeld_of_load loadedFirst).performAll savedFirst separableAlone ranAlone
  obtain ⟨s₂, loaded₂, isOpen₂, alike₂⟩ := had
  rw [projects_eq] at alike₂
  obtain ⟨s₂_eq, fs₂_eq⟩ := Prod.mk.inj (loaded₂.symm.trans loadedSecond)
  obtain rfl : s₂ = b := Except.ok.inj s₂_eq
  subst fs₂_eq
  -- the one that loads last finds what has been registered alone
  have start (who : Bool) : IsHeld env (bif who then s₂ else a') ∧
      (bif who then s₂ else a').projects.Alike (a.projects.registerAll alone) := by
    cases who with
    | false => exact ⟨isHeld, projects_eq ▸ .refl _⟩
    | true =>
      exact ⟨isHeld_of_load loaded₂, alike₂⟩
  obtain ⟨s, loaded, _, alike⟩ := hasProjects_of_callAll (fun who => (start who).1)
    ⟨_, loaded₂, isOpen₂, .refl _⟩ (fun c mem => separableCalls _ (List.mem_map_of_mem mem)) ran
  replace alike := alike.trans ((start last.who).2.registerAll _)
  have own : (registrationsOf last.who (calls ++ [last])).Sublist
      ((calls ++ [last]).map Call.registration) := List.filter_sublist.map _
  have distinctOwn := distinctCalls.sublist (own.map Prod.fst)
  refine ⟨s, loaded, fun r mem => (alike.paths _ _).2 ?_, fun c mem same => (alike.paths _ _).2 ?_,
    fun c mem ne new known => ?_, fun root known => (alike.roots root).2 ?_⟩
  · refine Projects.mem_registerAll_of_mem (Projects.mem_registerAll distinctAlone mem) ?_
    exact fun inCalls => disjoint _ (List.mem_map_of_mem mem) _ ((own.map Prod.fst).subset inCalls) rfl
  · exact Projects.mem_registerAll distinctOwn
      (List.mem_map_of_mem (List.mem_filter.2 ⟨mem, decide_eq_true same⟩))
  · have inCalls : c.root ∈ ((calls ++ [last]).map Call.registration).map Prod.fst :=
      List.mem_map_of_mem (List.mem_map_of_mem mem)
    obtain inOwn | known := Projects.mem_roots_registerAll.1 ((alike.roots _).1 known)
    · -- the one that calls last would have called with the same root
      rw [registrationsOf, List.map_map] at inOwn
      obtain ⟨c', there, root_eq⟩ := List.mem_map.1 inOwn
      obtain ⟨mem', same⟩ := List.mem_filter.1 there
      rw [List.map_map] at distinctCalls
      obtain rfl : c' = c := List.inj_on_of_nodup_map distinctCalls mem' mem root_eq
      exact ne (of_decide_eq_true same)
    · obtain inAlone | known := Projects.mem_roots_registerAll.1 known
      · exact disjoint _ inAlone _ inCalls rfl
      · exact new known
  · exact Projects.mem_roots_registerAll.2 (.inr (Projects.mem_roots_registerAll.2 (.inr known)))

/-- In a home directory, two can register projects in any order. -/
lemma exists_callAll_homeSettings {calls : List Call} {projects : Bool → Projects}
    (writable : ∀ who, Json.IsWritable 989 (.object (projects who)))
    (separable : ∀ c ∈ calls, Json.IsSeparable c.root ∧ Json.IsSeparable c.database)
    (document : Option ByteArray) :
    ∃ held fs, callAll homeEnv calls (fun who => homeSettings (projects who), homeFiles document) =
      .ok (held, fs) := by
  induction calls generalizing projects document with
  | nil => exact ⟨_, _, rfl⟩
  | cons c calls ih =>
    obtain ⟨first, others⟩ := List.forall_mem_cons.1 separable
    obtain ⟨writable', content, added⟩ :=
      addProject_homeSettings document (writable c.who) first.1 first.2
    have held_eq : Function.update (fun who => homeSettings (projects who)) c.who
        (homeSettings (OrderedMap.put c.root (.text c.database) (projects c.who))) =
        fun who => homeSettings (Function.update projects c.who
          (OrderedMap.put c.root (.text c.database) (projects c.who)) who) :=
      (Function.comp_update homeSettings projects c.who _).symm
    have writables (who : Bool) : Json.IsWritable 989 (.object (Function.update projects c.who
        (OrderedMap.put c.root (.text c.database) (projects c.who)) who)) := by
      by_cases own : who = c.who
      · rw [own, Function.update_self]
        exact writable'
      · rw [Function.update_of_ne own]
        exact writable who
    obtain ⟨held, fs, ran⟩ := ih writables others (some content)
    refine ⟨held, fs, ?_⟩
    rw [callAll, added]
    rw [← held_eq] at ran
    exact ran

lemma load_homeFiles_none :
    load homeEnv (homeFiles none) = (.ok (homeSettings []), homeFiles none) := by
  cbv

lemma isOpen_homeFiles_none : IsOpen homeEnv (homeFiles none) (homeSettings []) := by
  have missing : (homeFiles none).probe homeEnv.cwd (homeSettings []).file = .ok none := by cbv
  exact FileSystem.isReadable_of_probe missing

/-- No projects can be written. -/
lemma isWritable_nil : Json.IsWritable 989 (.object []) :=
  .object_of_forall (by decide) (by simp) (by simp)

/-- A call of the one that loaded the settings first. -/
def firstCall : Call := ⟨false, "/a", "/d"⟩

/-- A call of the other one. -/
def secondCall : Call := ⟨true, "/b", "/e"⟩

/-- A registration by the first one alone. -/
def earlyRegistration : Text × Text := ("/c", "/d")

/-- The projects after that registration. -/
def earlyProjects : Projects := [(earlyRegistration.1, .text earlyRegistration.2)]

lemma isSeparable_early : Json.IsSeparable earlyRegistration.1 ∧ Json.IsSeparable earlyRegistration.2 :=
  ⟨Json.isSeparable_of_hasBytes (by decide), Json.isSeparable_of_hasBytes (by decide)⟩

lemma isWritable_early : Json.IsWritable 989 (.object earlyProjects) := by
  have database : Json.IsWritable 988 (.text earlyRegistration.2) := .scalar isSeparable_early.2
  exact isWritable_nil.put isSeparable_early.1 database

lemma isSeparable_firstCall : Json.IsSeparable firstCall.root ∧ Json.IsSeparable firstCall.database :=
  ⟨Json.isSeparable_of_hasBytes (by decide), Json.isSeparable_of_hasBytes (by decide)⟩

lemma isSeparable_secondCall :
    Json.IsSeparable secondCall.root ∧ Json.IsSeparable secondCall.database :=
  ⟨Json.isSeparable_of_hasBytes (by decide), Json.isSeparable_of_hasBytes (by decide)⟩

/-- The one that registers alone leaves its registration in the file. -/
lemma exists_performAll_early :
    ∃ document, performAll homeEnv ([earlyRegistration].map fun r => .addProject r.1 r.2)
        (homeSettings [], homeFiles none) =
          .ok (homeSettings earlyProjects, homeFiles document) ∧
      load homeEnv (homeFiles document) = (.ok (homeSettings earlyProjects), homeFiles document) := by
  obtain ⟨_, content, added⟩ :=
    addProject_homeSettings none isWritable_nil isSeparable_early.1 isSeparable_early.2
  have ran : performAll homeEnv ([earlyRegistration].map fun r => .addProject r.1 r.2)
      (homeSettings [], homeFiles none) =
        .ok (homeSettings earlyProjects, homeFiles (some content)) := by
    rw [List.map_singleton, performAll, Operation.perform, added]
    rfl
  have kept : IsKept homeEnv (homeSettings []) (homeFiles none) :=
    ⟨load_homeFiles_none, isOpen_homeFiles_none, SettingValues.isPlain_defaults.of_le (by decide)⟩
  have allowed : ∀ op ∈ [earlyRegistration].map fun r => Operation.addProject r.1 r.2,
      op.IsAllowed homeEnv := List.forall_mem_singleton.2 ⟨by decide, by decide⟩
  exact ⟨some content, ran, (kept.performAll allowed ran).1.loaded⟩

/-- What was registered alone is there in the end, and so is what the one has registered that calls last;
what the other has registered is not. -/
theorem projects_of_callAll_homeSettings :
    ∃ document held fs s,
      performAll homeEnv ([earlyRegistration].map fun r => .addProject r.1 r.2)
        (homeSettings [], homeFiles none) =
          .ok (homeSettings earlyProjects, homeFiles document) ∧
      load homeEnv (homeFiles document) =
        (.ok (homeSettings earlyProjects), homeFiles document) ∧
      callAll homeEnv [secondCall, firstCall]
        (fun _ => homeSettings earlyProjects, homeFiles document) = .ok (held, fs) ∧
      load homeEnv fs = (.ok s, fs) ∧
      (earlyRegistration.1, .text earlyRegistration.2) ∈ s.projects ∧
      (firstCall.root, .text firstCall.database) ∈ s.projects ∧
      secondCall.root ∉ s.projects.map Prod.fst := by
  obtain ⟨document, ranAlone, loadedSecond⟩ := exists_performAll_early
  obtain ⟨held, fs, ran⟩ : ∃ held fs, callAll homeEnv ([secondCall] ++ [firstCall])
      (fun _ => homeSettings earlyProjects, homeFiles document) = .ok (held, fs) :=
    exists_callAll_homeSettings (fun _ => isWritable_early)
      (List.forall_mem_cons.2 ⟨isSeparable_secondCall,
        List.forall_mem_singleton.2 isSeparable_firstCall⟩) document
  have same : (fun _ => homeSettings earlyProjects) = fun who =>
      bif who then homeSettings earlyProjects else homeSettings earlyProjects :=
    funext fun who => (Bool.cond_self who _).symm
  have ran' := ran
  rw [same] at ran'
  have separable : ∀ r ∈ [earlyRegistration] ++ ([secondCall] ++ [firstCall]).map Call.registration,
      Json.IsSeparable r.1 ∧ Json.IsSeparable r.2 :=
    List.forall_mem_cons.2 ⟨isSeparable_early, List.forall_mem_cons.2 ⟨isSeparable_secondCall,
      List.forall_mem_singleton.2 isSeparable_firstCall⟩⟩
  obtain ⟨s, loaded, early, own, lost, _⟩ := projects_of_callAll load_homeFiles_none
    isOpen_homeFiles_none ranAlone loadedSecond ran' separable (by decide)
  refine ⟨document, held, fs, s, ranAlone, loadedSecond, ran, loaded, ?_, ?_, ?_⟩
  · exact early earlyRegistration List.mem_cons_self
  · exact own firstCall (by simp) rfl
  · exact lost secondCall (by simp) (by decide) (by decide)

/-- Where two have loaded the same settings and each registers a project, the first one is lost. -/
theorem projects_of_callAll_lost :
    ∃ held fs s, load homeEnv (homeFiles none) = (.ok (homeSettings []), homeFiles none) ∧
      callAll homeEnv [firstCall, secondCall] (fun _ => homeSettings [], homeFiles none) =
        .ok (held, fs) ∧
      load homeEnv fs = (.ok s, fs) ∧ firstCall.root ∉ s.projects.map Prod.fst := by
  have separable : ∀ c ∈ [firstCall] ++ [secondCall],
      Json.IsSeparable c.root ∧ Json.IsSeparable c.database :=
    List.forall_mem_cons.2 ⟨isSeparable_firstCall, List.forall_mem_singleton.2 isSeparable_secondCall⟩
  obtain ⟨held, fs, ran⟩ : ∃ held fs, callAll homeEnv ([firstCall] ++ [secondCall])
      (fun _ => homeSettings [], homeFiles none) = .ok (held, fs) :=
    exists_callAll_homeSettings (fun _ => isWritable_nil) separable none
  obtain ⟨s, loaded, _, alike⟩ := hasProjects_of_callAll
    (fun _ => isHeld_of_load load_homeFiles_none)
    ⟨_, load_homeFiles_none, isOpen_homeFiles_none, .refl _⟩ separable ran
  refine ⟨held, fs, s, load_homeFiles_none, ran, loaded, fun known => ?_⟩
  exact absurd ((alike.roots firstCall.root).1 known) (by decide)

end Settings

end CompileFlags
