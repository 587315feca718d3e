import CompileFlags.Proofs.Path.Resolve
import CompileFlags.Proofs.SearchPath

/-!
# Options with absolute directories

Making directories absolute leaves every option in its place, and changes two kinds of options only: an
option that is taken as the argument of a flag, and a flag with its directory joined to it
(`getElem?_absolutize`). Which options are arguments is told from left to right (`isArgument`), since an
argument that looks like a flag takes none itself. The directories that come out are read as the same
arguments again and are in normal form, so doing it once more changes nothing, whatever the base
directory is by then (`absolutized_settled`).
-/

namespace CompileFlags.SearchPath

variable {env env' : Env} {base base' flag option argument : Text} {options rest : List Text}

/-- Whether the option at a place is an argument: the option before it is a flag on its own, and no
argument itself. -/
def isArgument (options : List Text) : Nat → Bool
  | 0 => false
  | place + 1 => !isArgument options place && options[place]?.any flags.contains

lemma flag?_of_mem (mem : flag ∈ flags) : flag? flag = some flag := by
  simp only [flags, List.mem_cons, List.not_mem_nil, or_false] at mem
  rcases mem with rfl | rfl | rfl | rfl
  · rfl
  · rfl
  · rfl
  · rfl

lemma flag?_of_exception {exception : Text} (mem : exception ∈ exceptions)
    (begins : exception <+: option) : flag? option = none := by
  have starts : exceptions.any (startsWith option) = true :=
    List.any_eq_true.2 ⟨exception, mem, List.isPrefixOf_iff_prefix.2 begins⟩
  exact if_pos starts

/-- Nothing is joined to a flag exactly if it stands on its own. -/
lemma joined_ne_iff (found : flag? option = some flag) : joined flag option ≠ "" ↔ option ∉ flags := by
  rw [not_iff_not]
  constructor
  · intro empty
    have whole := append_joined found
    rw [empty, Path.ofString_empty, List.append_nil] at whole
    exact whole ▸ mem_flags_of_flag? found
  · intro mem
    obtain rfl := Option.some.inj ((flag?_of_mem mem).symm.trans found)
    exact List.drop_length

/-- Behind an option that is no flag on its own, and behind the argument of one, arguments are told anew.
-/
lemma isArgument_cons (notFlag : option ∉ flags) (rest : List Text) (place : Nat) :
    isArgument (option :: rest) (place + 1) = isArgument rest place := by
  induction place with
  | zero => simp [isArgument, notFlag]
  | succ place ih => rw [isArgument, ih, List.getElem?_cons_succ, isArgument]

lemma isArgument_one (isFlag : option ∈ flags) (rest : List Text) :
    isArgument (option :: rest) 1 = true := by
  simp [isArgument, isFlag]

lemma isArgument_cons_cons (isFlag : option ∈ flags) (argument : Text) (rest : List Text)
    (place : Nat) :
    isArgument (option :: argument :: rest) (place + 2) = isArgument rest place := by
  induction place with
  | zero => simp [isArgument, isFlag]
  | succ place ih =>
    rw [isArgument, ih, List.getElem?_cons_succ, List.getElem?_cons_succ, isArgument]

/-- What becomes of an option, given whether it is an argument. -/
def absolutizeOption (env : Env) (base : Text) (taken : Bool) (option : Text) : Text :=
  if taken then Path.expand env option base
  else
    match flag? option with
    | none => option
    | some flag =>
      if joined flag option ≠ "" then flag ++ Path.expand env (joined flag option) base else option

lemma absolutizeOption_of_none (none : flag? option = none) :
    absolutizeOption env base false option = option := by
  rw [absolutizeOption, none]
  rfl

lemma absolutizeOption_of_mem (isFlag : option ∈ flags) :
    absolutizeOption env base false option = option := by
  have found := flag?_of_mem isFlag
  rw [absolutizeOption, found]
  exact if_neg (mt (joined_ne_iff found).1 (not_not_intro isFlag))

lemma absolutizeOption_of_joined (found : flag? option = some flag) (notFlag : option ∉ flags) :
    absolutizeOption env base false option = flag ++ Path.expand env (joined flag option) base := by
  rw [absolutizeOption, found]
  exact if_pos ((joined_ne_iff found).2 notFlag)

/-- Every option stays in its place and is rewritten there. -/
lemma getElem?_absolutize (env : Env) (base : Text) (options : List Text) (place : Nat) :
    (absolutize env base options)[place]? =
      options[place]?.map (absolutizeOption env base (isArgument options place)) := by
  fun_induction parts options generalizing place with
  | case1 => rfl
  | case2 option rest none ih =>
    have notFlag : option ∉ flags := fun mem => by simp [flag?_of_mem mem] at none
    rw [absolutize_plain none]
    cases place with
    | zero => exact congrArg some (absolutizeOption_of_none none).symm
    | succ place => rw [isArgument_cons notFlag]; exact ih place
  | case3 option rest flag found ne ih =>
    have notFlag := (joined_ne_iff found).1 ne
    rw [absolutize_joined found ne]
    cases place with
    | zero => exact congrArg some (absolutizeOption_of_joined found notFlag).symm
    | succ place => rw [isArgument_cons notFlag]; exact ih place
  | case4 option flag found bare =>
    have isFlag : option ∈ flags := not_not.1 (mt (joined_ne_iff found).2 bare)
    rw [absolutize_dangling found bare]
    cases place with
    | zero => exact congrArg some (absolutizeOption_of_mem isFlag).symm
    | succ place => rfl
  | case5 option flag found bare argument rest ih =>
    have isFlag : option ∈ flags := not_not.1 (mt (joined_ne_iff found).2 bare)
    rw [absolutize_separate found bare]
    cases place with
    | zero => exact congrArg some (absolutizeOption_of_mem isFlag).symm
    | succ place =>
      -- the argument is made absolute whatever it looks like
      cases place with
      | zero => rw [isArgument_one isFlag]; rfl
      | succ place => rw [isArgument_cons_cons isFlag]; exact ih place

lemma length_absolutize (env : Env) (base : Text) (options : List Text) :
    (absolutize env base options).length = options.length := by
  fun_induction parts options with
  | case1 => rfl
  | case2 option rest none ih => rw [absolutize_plain none, List.length_cons, ih, List.length_cons]
  | case3 option rest flag found ne ih =>
    rw [absolutize_joined found ne, List.length_cons, ih, List.length_cons]
  | case4 option flag found bare => rw [absolutize_dangling found bare]
  | case5 option flag found bare argument rest ih =>
    rw [absolutize_separate found bare]
    simp only [List.length_cons, ih]

/-- An option is an argument, or a flag with a directory joined to it, or stays as it is. -/
lemma getElem?_absolutize_cases (env : Env) (base : Text) {place : Nat}
    (there : options[place]? = some option) :
    (isArgument options place = true ∧
      (absolutize env base options)[place]? = some (Path.expand env option base)) ∨
    (isArgument options place = false ∧ ∃ flag directory,
      flag? option = some flag ∧ option = flag ++ directory ∧ directory ≠ "" ∧
        (absolutize env base options)[place]? = some (flag ++ Path.expand env directory base)) ∨
    (isArgument options place = false ∧ (flag? option = none ∨ option ∈ flags) ∧
      (absolutize env base options)[place]? = some option) := by
  rw [getElem?_absolutize, there, Option.map_some]
  cases taken : isArgument options place with
  | true => exact .inl ⟨rfl, rfl⟩
  | false =>
    right
    cases found : flag? option with
    | none => exact .inr ⟨rfl, .inl rfl, congrArg some (absolutizeOption_of_none found)⟩
    | some flag =>
      by_cases isFlag : option ∈ flags
      · exact .inr ⟨rfl, .inr isFlag, congrArg some (absolutizeOption_of_mem isFlag)⟩
      · exact .inl ⟨rfl, flag, joined flag option, rfl, (append_joined found).symm,
          (joined_ne_iff found).2 isFlag, congrArg some (absolutizeOption_of_joined found isFlag)⟩

lemma Part.absolutize_absolutize (env env' : Env) (base base' : Text) (part : Part) :
    (part.absolutize env base).absolutize env' base' = part.absolutize env base := by
  have again (p : Text) : Path.expand env' (Path.expand env p base) base' = Path.expand env p base :=
    Path.expand_of_isNormal (Path.isNormal_expand env p base) env' base'
  cases part with
  | plain option => rfl
  | joined flag directory => exact congrArg (Part.joined flag) (again directory)
  | separate option argument => exact congrArg (Part.separate option) (again argument)
  | dangling option => rfl

lemma absolutize_absolutize (env env' : Env) (base base' : Text) (options : List Text) :
    absolutize env' base' (absolutize env base options) = absolutize env base options := by
  have again : (Part.absolutize env' base') ∘ (Part.absolutize env base) = Part.absolutize env base :=
    funext (Part.absolutize_absolutize env env' base base')
  -- what has been rewritten is read in the same parts, so each of them is rewritten once more
  rw [absolutize_eq env' base', parts_absolutize, List.map_map, again, ← absolutize_eq]

lemma absolutized_eq_ok_iff {rewritten : List Text} :
    absolutized env base options = .ok rewritten ↔
      Path.firstFault? env base (arguments options) = none ∧ rewritten = absolutize env base options := by
  rw [absolutized]
  cases Path.firstFault? env base (arguments options) with
  | none => simp [eq_comm]
  | some fault => simp

lemma absolutized_eq_error_iff {fault : Fault} :
    absolutized env base options = .error fault ↔
      Path.firstFault? env base (arguments options) = some fault := by
  rw [absolutized]
  cases Path.firstFault? env base (arguments options) with
  | none => simp
  | some fault => simp

lemma isNormal_of_mem_arguments_absolutize (mem : argument ∈ arguments (absolutize env base options)) :
    Path.IsNormal argument := by
  rw [arguments_absolutize] at mem
  obtain ⟨p, _, rfl⟩ := List.mem_map.1 mem
  exact Path.isNormal_expand env p base

/-- What has been made absolute stays as it is. -/
lemma absolutized_absolutize (env env' : Env) (base base' : Text) (options : List Text) :
    absolutized env' base' (absolutize env base options) = .ok (absolutize env base options) := by
  refine absolutized_eq_ok_iff.2 ⟨?_, (absolutize_absolutize env env' base base' options).symm⟩
  refine Path.firstFault?_eq_none_iff.2 fun argument mem => ?_
  exact (isNormal_of_mem_arguments_absolutize mem).fault?_eq_none env' base'

/-- Making directories absolute twice comes to the same as doing it once, be that a list of options or a
fault, wherever the home directory, the current directory and the base directory are by then. It gives a
list exactly if every argument can be resolved, and otherwise the fault of the first one that cannot. In
the list each option stays in its place: an argument is made absolute, a flag keeps itself and what is
joined to it is made absolute, and every other option stays as it is. All arguments that come out are in
normal form. -/
theorem absolutized_settled (env env' : Env) (base base' : Text) (options : List Text) :
    ((absolutized env base options).bind (absolutized env' base') = absolutized env base options) ∧
    ((∃ rewritten, absolutized env base options = .ok rewritten) ↔
      ∀ argument ∈ arguments options, ∃ p, Path.resolve env argument base = .ok p) ∧
    (∀ fault, absolutized env base options = .error fault ↔
      ∃ before argument after, arguments options = before ++ argument :: after ∧
        Path.resolve env argument base = .error fault ∧
        ∀ other ∈ before, ∃ p, Path.resolve env other base = .ok p) ∧
    ∀ rewritten, absolutized env base options = .ok rewritten →
      rewritten.length = options.length ∧
      (∀ place option, options[place]? = some option →
        (isArgument options place = true ∧ rewritten[place]? = some (Path.expand env option base)) ∨
        (isArgument options place = false ∧ ∃ flag directory,
          flag? option = some flag ∧ option = flag ++ directory ∧ directory ≠ "" ∧
            rewritten[place]? = some (flag ++ Path.expand env directory base)) ∨
        (isArgument options place = false ∧ (flag? option = none ∨ option ∈ flags) ∧
          rewritten[place]? = some option)) ∧
      (∀ place option, options[place]? = some option → isArgument options place = false →
        option ∈ flags ∨ ("-isystem-after" : Text) <+: option → rewritten[place]? = some option) ∧
      ∀ argument ∈ arguments rewritten, Path.IsNormal argument := by
  have resolvable (p : Text) :
      (∃ q, Path.resolve env p base = .ok q) ↔ Path.fault? env p base = none := by
    simp only [Path.resolve_eq_ok_iff, exists_and_left, exists_eq, and_true]
  refine ⟨?_, ?_, ?_, ?_⟩
  · cases once : absolutized env base options with
    | error fault => rfl
    | ok rewritten =>
      obtain ⟨_, rfl⟩ := absolutized_eq_ok_iff.1 once
      exact absolutized_absolutize env env' base base' options
  · simp only [resolvable, absolutized_eq_ok_iff, exists_and_left, exists_eq, and_true,
      Path.firstFault?_eq_none_iff]
  · intro fault
    simp only [resolvable, absolutized_eq_error_iff, Path.resolve_eq_error_iff,
      Path.firstFault?_eq_some_iff]
  · intro rewritten once
    obtain ⟨_, rfl⟩ := absolutized_eq_ok_iff.1 once
    refine ⟨length_absolutize env base options, fun place option => getElem?_absolutize_cases env base,
      ?_, fun argument => isNormal_of_mem_arguments_absolutize⟩
    intro place option there free kept
    have rewritten_eq := getElem?_absolutize env base options place
    rw [there, free, Option.map_some] at rewritten_eq
    refine rewritten_eq.trans (congrArg some ?_)
    cases kept with
    | inl isFlag => exact absolutizeOption_of_mem isFlag
    | inr excepted =>
      exact absolutizeOption_of_none (flag?_of_exception List.mem_cons_self excepted)

/-- Flags that follow a flag are its arguments, and what follows them is read anew; a flag at the end
has no argument. -/
theorem absolutized_settled_flagArguments :
    let env : Env := { home := "/h", cwd := ⟨["w"], 0⟩, clock := 0 }
    let options : List Text := ["-I", "-Iinc", "-Iinc", "-iquote", "-isystem-after", "-isystem-after",
      "-isystem~/s", "-I", "", "-DX", "-I"]
    let rewritten : List Text := ["-I", "/b/-Iinc", "-I/b/inc", "-iquote", "/b/-isystem-after",
      "-isystem-after", "-isystem/h/s", "-I", "/b", "-DX", "-I"]
    isArgument options 4 = true ∧ isArgument options 5 = false ∧
      absolutized env "/b" options = .ok rewritten ∧ absolutized env "/c" rewritten = .ok rewritten ∧
      rewritten[5]? = options[5]? := by
  intro env options rewritten
  have once : absolutized env "/b" options = .ok rewritten := by decide +kernel
  obtain ⟨again, _, _, told⟩ := absolutized_settled env env "/b" "/c" options
  rw [once] at again
  have free : isArgument options 5 = false := by decide +kernel
  obtain ⟨_, _, kept, _⟩ := told rewritten once
  exact ⟨by decide +kernel, free, once, again, kept 5 _ rfl free (.inr (by decide +kernel))⟩

end CompileFlags.SearchPath
