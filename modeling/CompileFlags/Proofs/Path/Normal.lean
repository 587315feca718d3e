import CompileFlags.Path.Expand
import CompileFlags.Path.Tidy
import CompileFlags.Proofs.Path.Names

/-!
# Normal forms

A path is in normal form if it is absolute and its own normal form. Such a path is the text of an
absolute path whose pieces are names, and of only one (`isNormal_iff`, `Absolute.ofText_text`), so
reading it and writing it again changes nothing. Normalizing gives a normal form whatever it is given
(`isNormal_normalize`); hence a path that is made absolute is in normal form, wherever the home
directory and the current directory are, and making it absolute once more does not move it
(`expand_of_isNormal`).
-/

namespace CompileFlags.Path

/-- A path that is absolute and its own normal form. -/
structure IsNormal (p : Text) : Prop where
  absolute : isAbsolute p = true
  normalize_eq : normalize p = p

/-- An absolute path starts with a slash. -/
lemma exists_of_isAbsolute {p : Text} (absolute : isAbsolute p = true) :
    ∃ rest, p = .char '/' :: rest := by
  cases p with
  | nil => exact absurd absolute (by decide)
  | cons c rest =>
    obtain rfl : c = .char '/' := by simpa [isAbsolute] using absolute
    exact ⟨rest, rfl⟩

lemma ne_nil_of_isAbsolute {p : Text} (absolute : isAbsolute p = true) : p ≠ [] := by
  obtain ⟨rest, rfl⟩ := exists_of_isAbsolute absolute
  exact List.cons_ne_nil _ rest

namespace Absolute

/-- Whether the names of an absolute path are names. -/
def IsProper (a : Absolute) : Prop := ∀ name ∈ a.names, IsName name

/-- The root that an absolute path starts at. -/
def start (a : Absolute) : Text := Text.ofString (if a.doubled then "//" else "/")

/-- The text is the root and the names. -/
lemma text_eq (a : Absolute) : a.text = a.start ++ joinNames a.names := rfl

/-- The root is one slash or two. -/
lemma start_eq (a : Absolute) :
    a.start = [.char '/'] ∧ a.doubled = false ∨
      a.start = [.char '/', .char '/'] ∧ a.doubled = true := by
  rw [start]
  cases a.doubled with
  | false => exact .inl ⟨rfl, rfl⟩
  | true => exact .inr ⟨rfl, rfl⟩

/-- No slash stands in a proper name. -/
lemma IsProper.no_slash {a : Absolute} (proper : a.IsProper) :
    ∀ name ∈ a.names, .char '/' ∉ name :=
  fun name mem => (proper name mem).no_slash

/-- A name is put below those reached so far. -/
lemma step_of_isName {piece : Text} (isName : IsName piece) (names : List Text) :
    step names piece = names ++ [piece] := by
  rw [step, if_neg (not_or.2 ⟨isName.ne_empty, isName.ne_here⟩), if_neg isName.ne_above]

/-- Names are put below those reached so far, one after the other. -/
lemma foldl_step_of_isName {pieces : List Text} (isName : ∀ piece ∈ pieces, IsName piece)
    (names : List Text) : pieces.foldl step names = names ++ pieces := by
  induction pieces generalizing names with
  | nil => exact (List.append_nil names).symm
  | cons piece pieces ih =>
    rw [List.foldl_cons, step_of_isName (isName piece List.mem_cons_self),
      ih fun other mem => isName other (List.mem_cons_of_mem _ mem), List.append_assoc]
    rfl

/-- A step leaves names only. -/
lemma isName_of_mem_step {names : List Text} {piece name : Text}
    (isName : ∀ name ∈ names, IsName name) (no : .char '/' ∉ piece) (mem : name ∈ step names piece) :
    IsName name := by
  rw [step] at mem
  split at mem
  · exact isName name mem
  · rename_i skipped
    split at mem
    · exact isName name (List.dropLast_subset _ mem)
    · rename_i above
      rw [List.mem_append, List.mem_singleton] at mem
      cases mem with
      | inl mem => exact isName name mem
      | inr e =>
        rw [not_or] at skipped
        exact e ▸ ⟨skipped.1, skipped.2, above, no⟩

/-- Steps leave names only. -/
lemma isName_of_mem_foldl_step {pieces names : List Text} {name : Text}
    (isName : ∀ name ∈ names, IsName name) (no : ∀ piece ∈ pieces, .char '/' ∉ piece)
    (mem : name ∈ pieces.foldl step names) : IsName name := by
  induction pieces generalizing names with
  | nil => exact isName name mem
  | cons piece pieces ih =>
    exact ih (fun _ => isName_of_mem_step isName (no piece List.mem_cons_self))
      (fun other mem => no other (List.mem_cons_of_mem _ mem)) mem

/-- What is read from a text has names only. -/
lemma isProper_ofText (p : Text) : (ofText p).IsProper :=
  fun _ => isName_of_mem_foldl_step (fun _ mem => absurd mem List.not_mem_nil)
    (fun _ => no_slash_of_mem_pieces)

/-- The joined names of an absolute path do not start with a slash. -/
lemma IsProper.joinNames_head {a : Absolute} (proper : a.IsProper) {c : CodePoint} {rest : Text}
    (e : joinNames a.names = c :: rest) : c ≠ .char '/' := by
  cases h : a.names with
  | nil =>
    rw [h] at e
    exact absurd e (List.cons_ne_nil _ _).symm
  | cons name names =>
    have isName := proper name (h ▸ List.mem_cons_self)
    have trail_eq := trail_eq_joinNames (List.cons_ne_nil name names)
    rw [h] at e
    rw [e, trail_cons] at trail_eq
    cases name with
    | nil => exact absurd rfl isName.ne_empty
    | cons d name =>
      have head_eq := (List.cons.inj trail_eq).1
      have no := isName.no_slash
      rw [List.mem_cons, not_or] at no
      exact head_eq ▸ Ne.symm no.1

/-- The names of an absolute path are the steps of their text. -/
lemma IsProper.foldl_pieces_joinNames {a : Absolute} (proper : a.IsProper) :
    (pieces (joinNames a.names)).foldl step [] = a.names := by
  by_cases h : a.names = []
  · rw [h]; rfl
  · rw [pieces_joinNames h proper.no_slash, foldl_step_of_isName proper, List.nil_append]

/-- The root of a text is the one that it was written with. -/
lemma IsProper.startsDoubled_text {a : Absolute} (proper : a.IsProper) :
    startsDoubled a.text = a.doubled := by
  rw [text_eq]
  cases h : joinNames a.names with
  | nil =>
    obtain ⟨e, doubled⟩ | ⟨e, doubled⟩ := a.start_eq
    · rw [e, doubled]; rfl
    · rw [e, doubled]; rfl
  | cons c rest =>
    have ne := proper.joinNames_head h
    obtain ⟨e, doubled⟩ | ⟨e, doubled⟩ := a.start_eq
    · rw [e, doubled]
      cases rest with
      | nil => simp [startsDoubled, ne]
      | cons d rest => simp [startsDoubled, ne]
    · rw [e, doubled]
      simp [startsDoubled, ne]

/-- Reading the text of an absolute path gives it back. -/
lemma IsProper.ofText_text {a : Absolute} (proper : a.IsProper) : ofText a.text = a := by
  have names_eq : (pieces a.text).foldl step [] = a.names := by
    rw [text_eq]
    obtain ⟨e, _⟩ | ⟨e, _⟩ := a.start_eq
    · rw [e]; exact proper.foldl_pieces_joinNames
    · rw [e]; exact proper.foldl_pieces_joinNames
  rw [ofText, names_eq, proper.startsDoubled_text]

/-- The text of an absolute path is absolute. -/
lemma isAbsolute_text (a : Absolute) : isAbsolute a.text = true := by
  rw [text_eq]
  obtain ⟨e, _⟩ | ⟨e, _⟩ := a.start_eq
  · rw [e]; rfl
  · rw [e]; rfl

/-- The root of the text of an absolute path. -/
lemma IsProper.root_text {a : Absolute} (proper : a.IsProper) : root a.text = a.start := by
  rw [root, proper.startsDoubled_text, a.isAbsolute_text, start]
  cases a.doubled <;> rfl

/-- The text of an absolute path is in normal form. -/
lemma IsProper.isNormal_text {a : Absolute} (proper : a.IsProper) : IsNormal a.text :=
  ⟨a.isAbsolute_text, by rw [normalize, proper.ofText_text]⟩

end Absolute

/-- Normal forms are the texts of absolute paths. -/
lemma isNormal_iff {p : Text} : IsNormal p ↔ ∃ a : Absolute, a.IsProper ∧ a.text = p := by
  constructor
  · intro normal
    exact ⟨.ofText p, Absolute.isProper_ofText p, normal.normalize_eq⟩
  · rintro ⟨a, proper, rfl⟩
    exact proper.isNormal_text

/-- Normalizing gives a normal form. -/
lemma isNormal_normalize (p : Text) : IsNormal (normalize p) :=
  (Absolute.isProper_ofText p).isNormal_text

/-- What stands behind the slashes at the front of a path. -/
def belowRoot (p : Text) : Text := p.dropWhile (· = .char '/')

/-- Below its root, a normal form has names only. -/
lemma IsNormal.isName_of_mem_pieces {p piece : Text} (normal : IsNormal p)
    (ne : belowRoot p ≠ []) (mem : piece ∈ pieces (belowRoot p)) : IsName piece := by
  obtain ⟨a, proper, rfl⟩ := isNormal_iff.1 normal
  have dropped : belowRoot a.text = joinNames a.names := by
    rw [belowRoot, Absolute.text_eq]
    cases h : joinNames a.names with
    | nil =>
      obtain ⟨e, _⟩ | ⟨e, _⟩ := a.start_eq
      · rw [e]; rfl
      · rw [e]; rfl
    | cons c rest =>
      have ne := proper.joinNames_head h
      obtain ⟨e, _⟩ | ⟨e, _⟩ := a.start_eq
      · rw [e]; simp [ne]
      · rw [e]; simp [ne]
  rw [dropped] at ne mem
  by_cases h : a.names = []
  · rw [h] at ne; exact absurd rfl ne
  · rw [pieces_joinNames h proper.no_slash] at mem
    exact proper piece mem

/-- A normal form is tidy. -/
lemma IsNormal.tidy {p : Text} (normal : IsNormal p) : tidy p = p := by
  obtain ⟨a, proper, rfl⟩ := isNormal_iff.1 normal
  have kept : a.names.filter (fun piece : Text => piece ≠ "" && piece ≠ ".") = a.names := by
    rw [List.filter_eq_self]
    intro name mem
    have ne : name ≠ [] := (proper name mem).ne_empty
    simp [ne, (proper name mem).ne_here]
  have below : (pieces (joinNames a.names)).filter (fun piece : Text => piece ≠ "" && piece ≠ ".") =
      a.names := by
    by_cases h : a.names = []
    · rw [h]; rfl
    · rw [pieces_joinNames h proper.no_slash, kept]
  have names_eq : names a.text = a.names := by
    rw [names, Absolute.text_eq]
    obtain ⟨e, _⟩ | ⟨e, _⟩ := a.start_eq
    · rw [e]; exact below
    · rw [e]; exact below
  have ne : a.text ≠ "" := ne_nil_of_isAbsolute a.isAbsolute_text
  rw [Path.tidy, names_eq, proper.root_text, ← Absolute.text_eq, if_neg ne]

/-- An absolute path does not start at a home directory. -/
lemma expandHome_of_isAbsolute {p : Text} (absolute : isAbsolute p = true) (env : Env) :
    expandHome env p = p := by
  obtain ⟨rest, rfl⟩ := exists_of_isAbsolute absolute
  rfl

/-- In an absolute path no user is looked up. -/
lemma homeFault?_of_isAbsolute {p : Text} (absolute : isAbsolute p = true) : homeFault? p = none := by
  obtain ⟨rest, rfl⟩ := exists_of_isAbsolute absolute
  rfl

/-- A path that is made absolute is in normal form. -/
lemma isNormal_absolute (env : Env) (p : Text) : IsNormal (absolute env p) :=
  isNormal_normalize _

/-- A path that is taken from a base directory is in normal form. -/
lemma isNormal_expand (env : Env) (p base : Text) : IsNormal (expand env p base) :=
  isNormal_absolute env _

/-- A normal form does not depend on the current directory. -/
lemma absolute_of_isNormal {p : Text} (normal : IsNormal p) (env : Env) : absolute env p = p := by
  rw [absolute, join, if_pos normal.absolute, normal.normalize_eq]

/-- A normal form can be located. -/
lemma IsNormal.isLocatable {p : Text} (normal : IsNormal p) (env : Env) :
    isLocatable env p = true := by
  rw [Path.isLocatable, normal.absolute, Bool.true_or]

/-- Where the current directory has not been removed, every path can be located. -/
lemma isLocatable_of_present {env : Env} (present : env.cwd.removed = 0) (p : Text) :
    isLocatable env p = true := by
  rw [isLocatable, present, decide_eq_true rfl, Bool.or_true]

/-- A normal form is not taken from a base directory. -/
lemma fromBase_of_isNormal {p : Text} (normal : IsNormal p) (env : Env) (base : Text) :
    fromBase env p base = p := by
  rw [fromBase, expandHome_of_isAbsolute normal.absolute, join, if_pos normal.absolute]

/-- A normal form can be resolved. -/
lemma IsNormal.fault?_eq_none {p : Text} (normal : IsNormal p) (env : Env) (base : Text) :
    fault? env p base = none := by
  rw [fault?, homeFault?_of_isAbsolute normal.absolute, expandHome_of_isAbsolute normal.absolute,
    normal.absolute]

/-- A normal form does not depend on a base directory. -/
lemma expand_of_isNormal {p : Text} (normal : IsNormal p) (env : Env) (base : Text) :
    expand env p base = p := by
  rw [expand, fromBase_of_isNormal normal, absolute_of_isNormal normal]

end CompileFlags.Path
