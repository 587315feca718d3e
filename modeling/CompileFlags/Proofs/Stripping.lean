import CompileFlags.Proofs.Entry

/-!
# Stripping in place

The options of a command may also be found by surgery on its arguments: at each position an argument
is deleted, together with the one behind it if it asks for an output, or the position moves on; `--`
cuts the list off (`Surgery.step`). The argument behind a deleted one moves up and is looked at next.
Whatever the arguments are, the surgery comes to an end, and what it leaves is what a single pass
keeps (`stripOptions_eq_surgery`); both resolve the same arguments on the way.
-/

namespace CompileFlags

variable {env : Env} {file directory arg : Text} {args before rest resolved : List Text}

/-- The relevant arguments are some of the arguments, in their order. -/
lemma relevantArguments_sublist (args : List Text) : (relevantArguments args).Sublist args := by
  fun_induction relevantArguments args with
  | case1 => exact .slnil
  | case2 => exact List.nil_sublist _
  | case3 _ _ ih => exact ih.cons _
  | case4 => exact List.nil_sublist _
  | case5 _ _ _ _ ih => exact (ih.cons _).cons _
  | case6 _ _ _ _ _ _ ih => exact ih.cons _
  | case7 _ _ _ _ _ _ ih => exact ih.cons_cons _

/-- Options are some of the arguments, in their order. -/
lemma stripOptions_sublist (env : Env) (file directory : Text) (args : List Text) :
    (stripOptions env file directory args).Sublist args :=
  List.filter_sublist.trans (relevantArguments_sublist args)

/-- All arguments are relevant if none ends the list or concerns the output. -/
lemma relevantArguments_eq_self
    (relevant : ∀ arg ∈ args, arg ≠ "--" ∧ arg ≠ "-c" ∧ ¬ ("-o" : Text) <+: arg) :
    relevantArguments args = args := by
  induction args with
  | nil => rfl
  | cons arg rest ih =>
    obtain ⟨⟨neTerminator, neCompile, notOutput⟩, others⟩ := List.forall_mem_cons.1 relevant
    have neOutput : arg ≠ "-o" := fun e => notOutput (e ▸ List.prefix_rfl)
    rw [relevantArguments.eq_def]
    dsimp only
    rw [if_neg neTerminator, if_neg neCompile, if_neg neOutput,
      if_neg (mt List.isPrefixOf_iff_prefix.1 notOutput), ih others]

/-- Nothing is stripped from options. -/
lemma stripOptions_idem (env : Env) (file directory : Text) (args : List Text) :
    stripOptions env file directory (stripOptions env file directory args) =
      stripOptions env file directory args := by
  have relevant : relevantArguments (stripOptions env file directory args) =
      stripOptions env file directory args :=
    relevantArguments_eq_self fun _ mem => of_mem_relevantArguments (List.mem_of_mem_filter mem)
  rw [stripOptions, relevant, List.filter_eq_self]
  exact fun _ mem => (List.mem_filter.1 mem).2

/-- Arguments under surgery, the position that is looked at, and the arguments that have been resolved
to see whether they are the file. -/
structure Surgery where
  args : List Text
  position : Nat
  resolved : List Text

namespace Surgery

/-- Deletes the argument at the position, if there is one. -/
def delete (s : Surgery) : Surgery := { s with args := s.args.eraseIdx s.position }

/-- What is done at a position. Nothing is left to be done behind the last argument. -/
def step (env : Env) (file directory : Text) (s : Surgery) : Option Surgery :=
  s.args[s.position]?.map fun (arg : Text) =>
    if arg = "--" then { s with args := s.args.take s.position }
    else if arg = "-c" then s.delete
    else if arg = "-o" then s.delete.delete
    else if List.isPrefixOf "-o" arg then s.delete
    else if Path.expand env arg directory = file then
      { s.delete with resolved := s.resolved ++ [arg] }
    else { s with position := s.position + 1, resolved := s.resolved ++ [arg] }

/-- Whether steps lead from a surgery to one that is finished. -/
inductive Finishes (env : Env) (file directory : Text) : Surgery → Surgery → Prop
  | done {s : Surgery} (ended : s.step env file directory = none) : Finishes env file directory s s
  | more {s t u : Surgery} (stepped : s.step env file directory = some t)
    (finishes : Finishes env file directory t u) : Finishes env file directory s u

variable {s t u : Surgery}

lemma finishes_of_step_eq_none (ended : s.step env file directory = none) :
    Finishes env file directory s u ↔ u = s := by
  constructor
  · intro finishes
    cases finishes with
    | done => rfl
    | more stepped => exact absurd (ended.symm.trans stepped) (Option.some_ne_none _).symm
  · rintro rfl
    exact .done ended

lemma finishes_of_step_eq_some (stepped : s.step env file directory = some t) :
    Finishes env file directory s u ↔ Finishes env file directory t u := by
  constructor
  · intro finishes
    cases finishes with
    | done ended => exact absurd (ended.symm.trans stepped) (Option.some_ne_none t).symm
    | more stepped' finishes =>
      obtain rfl := Option.some.inj (stepped.symm.trans stepped')
      exact finishes
  · exact .more stepped

/-- The surgery that has kept some arguments and has others before it. -/
def opened (before rest resolved : List Text) : Surgery := ⟨before ++ rest, before.length, resolved⟩

/-- Behind the last argument the surgery ends. -/
lemma step_opened_nil : (opened before [] resolved).step env file directory = none := by
  rw [step, opened, List.append_nil, List.getElem?_eq_none Nat.le.refl]
  rfl

lemma delete_opened_nil : (opened before [] resolved).delete = opened before [] resolved := by
  rw [delete, opened, List.append_nil, List.eraseIdx_of_length_le Nat.le.refl]

/-- The argument behind a deleted one moves up. -/
lemma delete_opened_cons :
    (opened before (arg :: rest) resolved).delete = opened before rest resolved := by
  have erased : (before ++ arg :: rest).eraseIdx before.length = before ++ rest := by
    rw [List.eraseIdx_append_of_length_le Nat.le.refl, Nat.sub_self]
    rfl
  exact congrArg (Surgery.mk · before.length resolved) erased

/-- A step before the last argument cuts the list off, deletes one or two arguments, or keeps one. -/
lemma step_opened_cons :
    (opened before (arg :: rest) resolved).step env file directory = some (
      if arg = "--" then opened before [] resolved
      else if arg = "-c" then opened before rest resolved
      else if arg = "-o" then (opened before rest resolved).delete
      else if List.isPrefixOf "-o" arg then opened before rest resolved
      else if Path.expand env arg directory = file then opened before rest (resolved ++ [arg])
      else opened (before ++ [arg]) rest (resolved ++ [arg])) := by
  have looked : (before ++ arg :: rest)[before.length]? = some arg := by simp
  have cut : (before ++ arg :: rest).take before.length = before ++ [] := by simp
  have kept : (⟨before ++ arg :: rest, before.length + 1, resolved ++ [arg]⟩ : Surgery) =
      opened (before ++ [arg]) rest (resolved ++ [arg]) := by
    simp [opened]
  have deleted : (opened before (arg :: rest) resolved).delete = opened before rest resolved :=
    delete_opened_cons
  rw [opened] at deleted
  rw [opened, step, looked, Option.map_some, deleted, cut, kept]
  rfl

/-- From any position the surgery finishes, and in one way: what is before it stays, of the arguments
behind it the options are left, and the relevant ones have been resolved. -/
lemma finishes_opened_iff :
    Finishes env file directory (opened before rest resolved) u ↔
      u = opened (before ++ stripOptions env file directory rest) []
        (resolved ++ relevantArguments rest) := by
  rw [stripOptions]
  -- along the single pass: each case of it is one step of the surgery, taken at the same argument
  fun_induction relevantArguments rest generalizing before resolved with
  | case1 =>
    rw [finishes_of_step_eq_none step_opened_nil, List.filter_nil, List.append_nil, List.append_nil]
  | case2 rest =>
    rw [finishes_of_step_eq_some step_opened_cons, if_pos rfl,
      finishes_of_step_eq_none step_opened_nil, List.filter_nil, List.append_nil, List.append_nil]
  | case3 rest neTerminator ih =>
    rw [finishes_of_step_eq_some step_opened_cons, if_neg neTerminator, if_pos rfl, ih]
  | case4 neTerminator neCompile =>
    rw [finishes_of_step_eq_some step_opened_cons, if_neg neTerminator, if_neg neCompile, if_pos rfl,
      delete_opened_nil, finishes_of_step_eq_none step_opened_nil, List.filter_nil, List.append_nil,
      List.append_nil]
  | case5 output rest neTerminator neCompile ih =>
    rw [finishes_of_step_eq_some step_opened_cons, if_neg neTerminator, if_neg neCompile, if_pos rfl,
      delete_opened_cons, ih]
  | case6 arg rest neTerminator neCompile neOutput joined ih =>
    rw [finishes_of_step_eq_some step_opened_cons, if_neg neTerminator, if_neg neCompile,
      if_neg neOutput, if_pos joined, ih]
  | case7 arg rest neTerminator neCompile neOutput notJoined ih =>
    rw [finishes_of_step_eq_some step_opened_cons, if_neg neTerminator, if_neg neCompile,
      if_neg neOutput, if_neg notJoined]
    by_cases isFile : Path.expand env arg directory = file
    · rw [if_pos isFile, ih, List.filter_cons_of_neg (by simpa using isFile), List.append_assoc]
      rfl
    · rw [if_neg isFile, ih, List.filter_cons_of_pos (by simpa using isFile), List.append_assoc,
        List.append_assoc]
      rfl

end Surgery

/-- Surgery on any arguments comes to an end, in one way, and what it leaves is what the single pass
keeps; the arguments it resolves on the way are the relevant ones. Options are some of the arguments in
their order, and nothing is stripped from them. -/
theorem stripOptions_eq_surgery (env : Env) (file directory : Text) (args : List Text) :
    (∀ finished, Surgery.Finishes env file directory ⟨args, 0, []⟩ finished ↔
      finished = ⟨stripOptions env file directory args, (stripOptions env file directory args).length,
        relevantArguments args⟩) ∧
    (stripOptions env file directory args).Sublist args ∧
    stripOptions env file directory (stripOptions env file directory args) =
      stripOptions env file directory args := by
  refine ⟨fun finished => ?_, stripOptions_sublist env file directory args,
    stripOptions_idem env file directory args⟩
  have ended : Surgery.opened ([] ++ stripOptions env file directory args) []
      ([] ++ relevantArguments args) = ⟨stripOptions env file directory args,
        (stripOptions env file directory args).length, relevantArguments args⟩ := by
    rw [Surgery.opened, List.nil_append, List.append_nil]
    rfl
  have started : (⟨args, 0, []⟩ : Surgery) = .opened [] args [] := rfl
  rw [← ended, started]
  exact Surgery.finishes_opened_iff

end CompileFlags
