import CompileFlags.Proofs.Path.Parent
import CompileFlags.Proofs.Path.Resolve

/-!
# Paths in stages

A path that is joined to a directory is read from where the reading of the directory ends
(`Absolute.ofText_join`), so the directory may be put in normal form before (`normalize_join`). A path
that is taken from a base directory, which is taken from the current one in turn, may therefore be
resolved in stages: with the base resolved first it comes to the same, and once resolved it stays as it
is (`resolve_staged`). Only a path that does not need its base can be resolved where the base cannot
(`resolve_unstaged`).
-/

namespace CompileFlags.Path

variable {p dir : Text}

lemma join_of_relative (relative : isAbsolute p = false) (dir : Text) :
    join dir p = asDirectory dir ++ p := by
  have notAbsolute : ¬ isAbsolute [] = true := by decide
  rw [asDirectory, join, if_neg (Bool.eq_false_iff.1 relative), join, ofString_empty,
    if_neg notAbsolute]
  split
  · rw [List.append_nil]
  · rw [List.append_nil]

lemma isAbsolute_join (absolute : isAbsolute dir = true) (p : Text) : isAbsolute (join dir p) = true := by
  obtain ⟨rest, rfl⟩ := exists_of_isAbsolute absolute
  rw [join]
  split
  · assumption
  · split
    · rfl
    · rfl

lemma isAbsolute_join_of_relative (relative : isAbsolute p = false) (relativeDir : isAbsolute dir = false) :
    isAbsolute (join dir p) = false := by
  rw [join_of_relative relative]
  cases dir with
  | nil => exact relative
  | cons c rest =>
    rw [asDirectory_eq]
    split
    · exact relativeDir
    · exact relativeDir

lemma asDirectory_append (above p : Text) :
    asDirectory (asDirectory above ++ p) = asDirectory above ++ asDirectory p := by
  by_cases empty : p = []
  · -- the slash is there already
    subst empty
    rw [List.append_nil, asDirectory_eq (asDirectory above), if_pos (asDirectory_eq_nil_or above)]
    exact (List.append_nil _).symm
  · rw [asDirectory_eq (asDirectory above ++ p), asDirectory_eq p, endsInSlash_append empty]
    by_cases ends : endsInSlash p = true
    · rw [if_pos (.inr ends), if_pos (.inr ends)]
    · rw [if_neg, if_neg, List.append_assoc]
      · exact not_or.2 ⟨empty, ends⟩
      · exact not_or.2 ⟨fun none => empty (List.append_eq_nil_iff.1 none).2, ends⟩

lemma join_assoc (above dir p : Text) : join (join above dir) p = join above (join dir p) := by
  -- an absolute path stands for itself, so what is before it is of no account
  by_cases absolute : isAbsolute p = true
  · have own (above : Text) : join above p = p := if_pos absolute
    rw [own, own, own]
  have relative := Bool.eq_false_iff.2 absolute
  by_cases absoluteDir : isAbsolute dir = true
  · have own : join above dir = dir := if_pos absoluteDir
    rw [own]
    exact (if_pos (isAbsolute_join absoluteDir p)).symm
  have relativeDir := Bool.eq_false_iff.2 absoluteDir
  calc join (join above dir) p
      = asDirectory (asDirectory above ++ dir) ++ p := by
        rw [join_of_relative relative, join_of_relative relativeDir]
    _ = asDirectory above ++ (asDirectory dir ++ p) := by
        rw [asDirectory_append, List.append_assoc]
    _ = join above (join dir p) := by
        rw [join_of_relative (isAbsolute_join_of_relative relative relativeDir),
          join_of_relative relative]

/-- What stands behind a directory is read from where the reading of the directory ends. -/
lemma foldl_pieces_join (relative : isAbsolute p = false) (ne : dir ≠ []) (names : List Text) :
    (pieces (join dir p)).foldl Absolute.step names =
      (pieces p).foldl Absolute.step ((pieces dir).foldl Absolute.step names) := by
  rw [join_of_relative relative, asDirectory_eq]
  by_cases ends : endsInSlash dir = true
  · -- behind the slash at the end there is an empty piece, which leads nowhere
    obtain ⟨above, rfl⟩ := List.getLast?_eq_some_iff.1 (by simpa [endsInSlash] using ends)
    have stays (names : List Text) : (pieces []).foldl Absolute.step names = names := by
      rw [pieces, List.foldl_cons, List.foldl_nil, Absolute.step, if_pos (.inl ofString_empty.symm)]
    rw [if_pos (.inr ends), List.append_assoc, List.singleton_append, pieces_append, pieces_append,
      List.foldl_append, List.foldl_append, stays]
  · rw [if_neg (not_or.2 ⟨ne, ends⟩), List.append_assoc, List.singleton_append, pieces_append,
      List.foldl_append]

lemma startsDoubled_join (relative : isAbsolute p = false) (absolute : isAbsolute dir = true) :
    startsDoubled (join dir p) = startsDoubled dir := by
  obtain ⟨rest, rfl⟩ := exists_of_isAbsolute absolute
  have ne {c : CodePoint} {more : Text} (e : p = c :: more) : c ≠ .char '/' := by
    rintro rfl
    rw [e] at relative
    exact absurd relative (by simp [isAbsolute])
  rw [join_of_relative relative, asDirectory_eq]
  cases rest with
  | nil =>
    -- the root has a slash at its end, and no slash follows
    cases h : p with
    | nil => rfl
    | cons c more => cases more <;> simp [startsDoubled, endsInSlash, ne h]
  | cons c rest =>
    by_cases slash : c = .char '/'
    · subst slash
      cases rest with
      | nil =>
        cases h : p with
        | nil => rfl
        | cons d more => simp [startsDoubled, endsInSlash, ne h]
      | cons d rest => split <;> rfl
    · cases rest with
      | nil => simp [startsDoubled, endsInSlash, slash]
      | cons d rest => split <;> simp [startsDoubled, slash]

/-- The names of a path that is joined to a directory go on from those of the directory. -/
lemma Absolute.ofText_join (relative : isAbsolute p = false) (absolute : isAbsolute dir = true) :
    ofText (join dir p) =
      { ofText dir with names := (pieces p).foldl step (ofText dir).names } := by
  rw [ofText, startsDoubled_join relative absolute,
    foldl_pieces_join relative (ne_nil_of_isAbsolute absolute)]
  rfl

lemma Absolute.ofText_normalize (p : Text) : ofText (normalize p) = ofText p :=
  (isProper_ofText p).ofText_text

/-- The directory that a path is joined to may be put in normal form before. -/
lemma normalize_join (absolute : isAbsolute dir = true) (p : Text) :
    normalize (join (normalize dir) p) = normalize (join dir p) := by
  by_cases own : isAbsolute p = true
  · have join_eq (dir : Text) : join dir p = p := if_pos own
    rw [join_eq, join_eq]
  · have relative := Bool.eq_false_iff.2 own
    have read : Absolute.ofText (join (normalize dir) p) = Absolute.ofText (join dir p) := by
      rw [Absolute.ofText_join relative (isNormal_normalize dir).absolute,
        Absolute.ofText_join relative absolute, Absolute.ofText_normalize]
    exact congrArg Absolute.text read

lemma isAbsolute_cwd (env : Env) : isAbsolute env.cwd.path = true := rfl

lemma absolute_join_cwd (env : Env) (p : Text) : absolute env (join env.cwd.path p) = absolute env p := by
  have own : join env.cwd.path env.cwd.path = env.cwd.path := if_pos (isAbsolute_cwd env)
  rw [absolute, ← join_assoc, own, absolute]

lemma absolute_join_absolute (env : Env) (dir p : Text) :
    absolute env (join (absolute env dir) p) = absolute env (join dir p) := by
  have normal := isNormal_absolute env dir
  have own : join env.cwd.path (absolute env dir) = absolute env dir := if_pos normal.absolute
  rw [absolute, ← join_assoc, own, absolute, normalize_join (isAbsolute_join (isAbsolute_cwd env) dir),
    join_assoc, absolute]

lemma expand_cwd (env : Env) (base : Text) :
    expand env base env.cwd.path = absolute env (expandHome env base) := by
  rw [expand, fromBase, expandHome_of_isAbsolute (isAbsolute_cwd env), absolute_join_cwd]

lemma expand_expand_base (env : Env) (p base : Text) :
    expand env p (expand env base env.cwd.path) = expand env p base := by
  have normal := isNormal_absolute env (expandHome env base)
  rw [expand_cwd, expand, fromBase, expandHome_of_isAbsolute normal.absolute,
    absolute_join_absolute, expand, fromBase]

/-- A normal form is resolved to itself, whatever the circumstances and the base are by then. -/
lemma IsNormal.resolve_eq (normal : IsNormal p) (env : Env) (base : Text) : resolve env p base = .ok p :=
  resolve_eq_ok_iff.2 ⟨normal.fault?_eq_none env base, (expand_of_isNormal normal env base).symm⟩

lemma isNormal_of_resolve {env : Env} {base q : Text} (resolved : resolve env p base = .ok q) :
    IsNormal q := by
  obtain ⟨_, rfl⟩ := resolve_eq_ok_iff.1 resolved
  exact isNormal_expand env p base

lemma fault?_cwd {env : Env} {base : Text} (present : env.cwd.removed = 0) :
    fault? env base env.cwd.path = (homeFault? base).map .access := by
  cases own : homeFault? base with
  | some fault => rw [fault?, own]; rfl
  | none =>
    exact (fault?_eq_none_iff_of_present present).2
      ⟨own, .inr (homeFault?_of_isAbsolute (isAbsolute_cwd env))⟩

/-- Once the base is resolved, a path is resolved from it as from the base itself. -/
lemma resolve_base {env : Env} {base dir : Text} (present : env.cwd.removed = 0) (p : Text)
    (resolved : resolve env base env.cwd.path = .ok dir) : resolve env p dir = resolve env p base := by
  obtain ⟨none, rfl⟩ := resolve_eq_ok_iff.1 resolved
  have normal := isNormal_expand env base env.cwd.path
  rw [fault?_cwd present, Option.map_eq_none_iff] at none
  have fault_eq : fault? env p (expand env base env.cwd.path) = fault? env p base := by
    rw [fault?, fault?, homeFault?_of_isAbsolute normal.absolute, none, isLocatable_of_present present,
      isLocatable_of_present present]
  rw [resolve, resolve, fault_eq, expand_expand_base]

/-- Where the base cannot be resolved, a path either does not need it or cannot be resolved for the same
reason. -/
lemma resolve_of_base_error {env : Env} {base : Text} {fault : Fault} (present : env.cwd.removed = 0)
    (p : Text) (failed : resolve env base env.cwd.path = .error fault) :
    (∀ other, resolve env p other = resolve env p base) ∨ resolve env p base = .error fault := by
  rw [resolve_eq_error_iff, fault?_cwd present, Option.map_eq_some_iff] at failed
  obtain ⟨cause, base_eq, rfl⟩ := failed
  cases own : homeFault? p with
  | some cause =>
    left
    intro other
    rw [resolve, resolve, fault?, fault?, own]
  | none =>
    cases absolute : isAbsolute (expandHome env p) with
    | true =>
      left
      intro other
      have unneeded (base : Text) : resolve env p base = .ok (Path.absolute env (expandHome env p)) := by
        refine resolve_eq_ok_iff.2 ⟨fault?_eq_none_iff.2 ⟨own, .inl absolute⟩, ?_⟩
        rw [expand, fromBase, join, if_pos absolute]
      rw [unneeded, unneeded]
    | false =>
      right
      rw [resolve_eq_error_iff, fault?, own, absolute, base_eq]

/-- A path that is resolved from a base directory is in normal form, and is resolved to itself from then
on, whatever the circumstances and the base are. Where there is a current directory, a path can be
resolved exactly if its user can be looked up and, unless it is absolute, that of the base too. The base
may be resolved first: the path comes to the same then, be it a normal form or a fault. Where the base
cannot be resolved, the path fails for the same reason, unless the base is of no concern to it. -/
theorem resolve_staged (env : Env) (p base : Text) :
    (∀ q, resolve env p base = .ok q →
      IsNormal q ∧ ∀ (env' : Env) (base' : Text), resolve env' q base' = .ok q) ∧
    (env.cwd.removed = 0 →
      ((∃ q, resolve env p base = .ok q) ↔
        homeFault? p = none ∧ (isAbsolute (expandHome env p) = true ∨ homeFault? base = none)) ∧
      (∀ dir, resolve env base env.cwd.path = .ok dir → resolve env p dir = resolve env p base) ∧
      (∀ fault, resolve env base env.cwd.path = .error fault →
        (∀ other, resolve env p other = resolve env p base) ∨ resolve env p base = .error fault)) ∧
    ∀ dir p, absolute env (join (absolute env dir) p) = absolute env (join dir p) := by
  refine ⟨?_, ?_, absolute_join_absolute env⟩
  · intro q resolved
    have normal := isNormal_of_resolve resolved
    exact ⟨normal, normal.resolve_eq⟩
  · intro present
    refine ⟨?_, fun _ => resolve_base present p, fun _ => resolve_of_base_error present p⟩
    rw [← fault?_eq_none_iff_of_present present]
    simp only [resolve_eq_ok_iff, exists_and_left, exists_eq, and_true]

/-- A relative home directory is taken from the current one, and two slashes at the front stay. -/
theorem resolve_staged_relativeHome :
    let env : Env := { home := "h//", cwd := ⟨["w"], 0⟩, clock := 0 }
    let base : Text := "~/./b/.."
    env.cwd.removed = 0 ∧ resolve env base env.cwd.path = .ok "/w/h" ∧
      resolve env "../x" base = .ok "/w/x" ∧ resolve env "../x" "/w/h" = .ok "/w/x" ∧
      resolve env "/w/x" "~\x00" = .ok "/w/x" ∧ resolve env "" "//r/../" = .ok "//" := by
  intro env base
  obtain ⟨again, staged, _⟩ := resolve_staged env "../x" base
  have base_eq : resolve env base env.cwd.path = .ok "/w/h" := by decide +kernel
  have resolved : resolve env "../x" base = .ok "/w/x" := by decide +kernel
  exact ⟨rfl, base_eq, resolved, ((staged rfl).2.1 _ base_eq).trans resolved, (again _ resolved).2 env _,
    by decide +kernel⟩

/-- A path whose user cannot be looked up has no normal form, and an absolute one has its normal form
even if the base cannot be resolved first. -/
theorem resolve_unstaged :
    let env : Env := { home := "/h", cwd := ⟨["w"], 0⟩, clock := 0 }
    resolve env "~\x00x" "/b" = .error (.access .nullCharacter) ∧ resolve env "/a" "~\x00x" = .ok "/a" ∧
      resolve env "/a" "~\x00x" ≠
        (resolve env "~\x00x" env.cwd.path).bind fun dir => resolve env "/a" dir := by
  decide +kernel

end CompileFlags.Path
