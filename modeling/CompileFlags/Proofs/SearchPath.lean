import CompileFlags.Proofs.Path.Normal
import CompileFlags.SearchPath

/-!
# What search path flags name

Options are read in parts: a flag with its directory, joined or separate, a flag that nothing follows,
or an option that is no flag (`parts`). Both functions on options go part by part: one collects the
arguments that are not empty (`directories_eq`), the other rewrites each part on its own
(`absolutize_eq`). What is rewritten is read in the same parts again (`parts_absolutize`), so the
directories named are the ones from before, made absolute. The one exception is an empty argument: it
names no directory, and yet it is made absolute and then names the base
(`directories_absolutize_iff`).
-/

namespace CompileFlags.SearchPath

/-- Options that belong together. -/
inductive Part where
  /-- An option that is no flag. -/
  | plain (option : Text)
  /-- A flag and a directory in one option. -/
  | joined (flag directory : Text)
  /-- A flag and the option that follows it, which is its argument whatever it looks like. -/
  | separate (option argument : Text)
  /-- A flag that nothing follows. -/
  | dangling (option : Text)

namespace Part

/-- The options of a part. -/
def options : Part → List Text
  | plain option => [option]
  | joined flag directory => [flag ++ directory]
  | separate option argument => [option, argument]
  | dangling option => [option]

/-- The argument of the flag of a part. -/
def argument? : Part → Option Text
  | joined _ directory => some directory
  | separate _ argument => some argument
  | _ => none

/-- The part with its argument made absolute. -/
def absolutize (env : Env) (base : Text) : Part → Part
  | joined flag directory => joined flag (Path.expand env directory base)
  | separate option argument => separate option (Path.expand env argument base)
  | part => part

end Part

/-- The parts of some options. -/
def parts : List Text → List Part
  | [] => []
  | option :: rest =>
    match flag? option with
    | none => .plain option :: parts rest
    | some flag =>
      if joined flag option ≠ "" then .joined flag (joined flag option) :: parts rest
      else
        match rest with
        | [] => [.dangling option]
        | next :: rest => .separate option next :: parts rest
termination_by structural options => options

/-- Whether an argument names a directory: it does unless it is empty. -/
def namesDirectory (argument : Text) : Bool := argument ≠ ""

variable {env : Env} {base : Text} {flag option directory : Text} {options : List Text}

lemma mem_flags_of_flag? (found : flag? option = some flag) : flag ∈ flags := by
  rw [flag?] at found
  split at found
  · exact absurd found (by simp)
  · exact List.mem_of_find?_eq_some found

/-- An option is its flag and what is joined to it. -/
lemma append_joined (found : flag? option = some flag) : flag ++ joined flag option = option := by
  rw [flag?] at found
  split at found
  · exact absurd found (by simp)
  · have starts : flag.isPrefixOf option = true := List.find?_some (p := startsWith option) found
    obtain ⟨rest, e⟩ := List.isPrefixOf_iff_prefix.1 starts
    rw [joined, ← e, List.drop_left]

@[simp]
lemma joined_append (flag directory : Text) : joined flag (flag ++ directory) = directory :=
  List.drop_left

/-- A flag is read where an absolute path is joined to it. -/
lemma flag?_append (mem : flag ∈ flags) (absolute : Path.isAbsolute directory = true) :
    flag? (flag ++ directory) = some flag := by
  obtain ⟨rest, rfl⟩ := Path.exists_of_isAbsolute absolute
  simp only [flags, List.mem_cons, List.not_mem_nil, or_false] at mem
  rcases mem with rfl | rfl | rfl | rfl
  · rfl
  · rfl
  · rfl
  · rfl

lemma expand_ne_empty (env : Env) (p base : Text) : Path.expand env p base ≠ "" :=
  Path.ne_nil_of_isAbsolute (Path.isNormal_expand env p base).absolute

/-- No option is lost by reading in parts. -/
lemma flatMap_parts (options : List Text) : (parts options).flatMap Part.options = options := by
  fun_induction parts options with
  | case1 => rfl
  | case2 option rest none ih => rw [List.flatMap_cons, ih]; rfl
  | case3 option rest flag found ne ih =>
    rw [List.flatMap_cons, ih, Part.options, append_joined found]
    rfl
  | case4 option flag found bare => rfl
  | case5 option flag found bare argument rest ih => rw [List.flatMap_cons, ih]; rfl

/-- The arguments are those of the parts. -/
lemma arguments_eq (options : List Text) :
    arguments options = (parts options).filterMap Part.argument? := by
  fun_induction parts options with
  | case1 => rfl
  | case2 option rest none ih =>
    rw [arguments.eq_def]
    simp only [none]
    exact ih
  | case3 option rest flag found ne ih =>
    rw [arguments.eq_def]
    simp only [found]
    rw [if_pos ne, ih]
    rfl
  | case4 option flag found bare =>
    rw [arguments.eq_def]
    simp only [found]
    rw [if_neg bare]
    rfl
  | case5 option flag found bare argument rest ih =>
    rw [arguments.eq_def]
    simp only [found]
    rw [if_neg bare, ih]
    rfl

/-- The directories named are the arguments that are not empty. -/
lemma directories_eq (options : List Text) :
    directories options = (arguments options).filter namesDirectory := by
  rw [arguments_eq]
  fun_induction parts options with
  | case1 => rfl
  | case2 option rest none ih =>
    rw [directories.eq_def]
    simp only [none]
    exact ih
  | case3 option rest flag found ne ih =>
    rw [directories.eq_def]
    simp only [found]
    rw [if_pos ne, ih]
    exact (List.filter_cons_of_pos (p := namesDirectory) (decide_eq_true ne)).symm
  | case4 option flag found bare =>
    rw [directories.eq_def]
    simp only [found]
    rw [if_neg bare]
    rfl
  | case5 option flag found bare argument rest ih =>
    rw [directories.eq_def]
    simp only [found]
    rw [if_neg bare, ih]
    by_cases ne : argument ≠ ""
    · rw [if_pos ne]
      exact (List.filter_cons_of_pos (p := namesDirectory) (decide_eq_true ne)).symm
    · rw [if_neg ne]
      exact (List.filter_cons_of_neg (p := namesDirectory) (mt of_decide_eq_true ne)).symm

lemma absolutize_plain (none : flag? option = none) (rest : List Text) :
    absolutize env base (option :: rest) = option :: absolutize env base rest := by
  rw [absolutize.eq_def]
  simp only [none]

lemma absolutize_joined (found : flag? option = some flag) (ne : joined flag option ≠ "")
    (rest : List Text) :
    absolutize env base (option :: rest) =
      (flag ++ Path.expand env (joined flag option) base) :: absolutize env base rest := by
  rw [absolutize.eq_def]
  simp only [found]
  rw [if_pos ne]

lemma absolutize_dangling (found : flag? option = some flag) (bare : ¬ joined flag option ≠ "") :
    absolutize env base [option] = [option] := by
  rw [absolutize.eq_def]
  simp only [found]
  rw [if_neg bare]

lemma absolutize_separate (found : flag? option = some flag) (bare : ¬ joined flag option ≠ "")
    (argument : Text) (rest : List Text) :
    absolutize env base (option :: argument :: rest) =
      option :: Path.expand env argument base :: absolutize env base rest := by
  rw [absolutize.eq_def]
  simp only [found]
  rw [if_neg bare]

/-- Each part is rewritten on its own. -/
lemma absolutize_eq (env : Env) (base : Text) (options : List Text) :
    absolutize env base options =
      ((parts options).map (Part.absolutize env base)).flatMap Part.options := by
  fun_induction parts options with
  | case1 => rfl
  | case2 option rest none ih =>
    rw [absolutize_plain none, ih]
    rfl
  | case3 option rest flag found ne ih =>
    rw [absolutize_joined found ne, ih]
    rfl
  | case4 option flag found bare => exact absolutize_dangling found bare
  | case5 option flag found bare argument rest ih =>
    rw [absolutize_separate found bare, ih]
    rfl

/-- What is rewritten is read in the same parts. -/
lemma parts_absolutize (env : Env) (base : Text) (options : List Text) :
    parts (absolutize env base options) = (parts options).map (Part.absolutize env base) := by
  fun_induction parts options with
  | case1 => rfl
  | case2 option rest none ih =>
    rw [absolutize_plain none, parts.eq_def]
    simp only [none]
    rw [ih]
    rfl
  | case3 option rest flag found ne ih =>
    -- a flag with an absolute path joined to it is the same flag, and names that path
    have again := flag?_append (mem_flags_of_flag? found)
      (Path.isNormal_expand env (joined flag option) base).absolute
    rw [absolutize_joined found ne, parts.eq_def]
    simp only [again, joined_append]
    rw [if_pos (expand_ne_empty env _ base), ih]
    rfl
  | case4 option flag found bare =>
    rw [absolutize_dangling found bare, parts.eq_def]
    simp only [found]
    rw [if_neg bare]
    rfl
  | case5 option flag found bare argument rest ih =>
    rw [absolutize_separate found bare, parts.eq_def]
    simp only [found]
    rw [if_neg bare, ih]
    rfl

/-- The arguments of what is rewritten are the arguments, made absolute. -/
lemma arguments_absolutize (env : Env) (base : Text) (options : List Text) :
    arguments (absolutize env base options) =
      (arguments options).map (Path.expand env · base) := by
  rw [arguments_eq, arguments_eq, parts_absolutize, List.filterMap_map, List.map_filterMap]
  apply List.filterMap_congr
  intro part _
  cases part with
  | plain option => rfl
  | joined flag directory => rfl
  | separate option argument => rfl
  | dangling option => rfl

/-- Of the parts that options are cut into, every argument is made absolute and named once that is
done, though only those that are not empty were named before. So the directories named stay the same
exactly if no argument is empty. -/
theorem directories_absolutize_iff (env : Env) (base : Text) (options : List Text) :
    (parts options).flatMap Part.options = options ∧
    directories options = (arguments options).filter namesDirectory ∧
    directories (absolutize env base options) = (arguments options).map (Path.expand env · base) ∧
    (directories (absolutize env base options) =
        (directories options).map (Path.expand env · base) ↔
      ∀ argument ∈ arguments options, argument ≠ "") := by
  have rewritten : directories (absolutize env base options) =
      (arguments options).map (Path.expand env · base) := by
    rw [directories_eq, arguments_absolutize, List.filter_eq_self]
    intro path mem
    obtain ⟨argument, _, rfl⟩ := List.mem_map.1 mem
    exact decide_eq_true (expand_ne_empty env argument base)
  refine ⟨flatMap_parts options, directories_eq options, rewritten, ?_⟩
  rw [rewritten, directories_eq]
  constructor
  · intro same argument mem
    have length_eq := congrArg List.length same
    rw [List.length_map, List.length_map] at length_eq
    have kept := List.length_filter_eq_length_iff.1 length_eq.symm
    exact of_decide_eq_true (kept argument mem)
  · intro ne
    have kept : (arguments options).filter namesDirectory = arguments options :=
      List.filter_eq_self.2 fun argument mem => decide_eq_true (ne argument mem)
    rw [kept]

/-- An empty argument names no directory, and the base once it has been made absolute. -/
theorem directories_absolutize_empty :
    let env : Env := { home := "/", cwd := ⟨[], 0⟩, clock := 0 }
    let options : List Text := ["-I", ""]
    directories options = [] ∧ directories (absolutize env "/b" options) = ["/b"] ∧
      directories (absolutize env "/b" options) ≠
        (directories options).map (Path.expand env · "/b") := by
  decide +kernel

end CompileFlags.SearchPath
