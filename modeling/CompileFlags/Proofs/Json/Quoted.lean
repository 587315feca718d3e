import CompileFlags.Proofs.Json.Grammar

/-!
# Strings by the grammar

What is read as a string may stand between quotes (`exists_isQuoted`), and what may stand there is read,
up to the closing quote (`exists_chars_eq`). Two numeric escapes can be read together, which makes no
difference to what is read.
-/

namespace CompileFlags.Json

variable {cs rest digits opening : Text}

/-- A number is spelled by hexadecimal digits, and by nothing else. -/
lemma ofHex?_isSome_iff : (ofHex? digits).isSome = true ↔ ∀ d ∈ digits, (hexDigit? d).isSome = true := by
  have folded (n : Nat) :
      (digits.foldlM (fun n c => (hexDigit? c).map (16 * n + ·)) n).isSome = true ↔
        ∀ d ∈ digits, (hexDigit? d).isSome = true := by
    induction digits generalizing n with
    | nil => exact iff_of_true rfl (List.forall_mem_nil _)
    | cons d digits ih =>
      rw [List.foldlM_cons, List.forall_mem_cons]
      cases hexDigit? d with
      | none => exact iff_of_false Bool.false_ne_true fun ⟨first, _⟩ => Bool.false_ne_true first
      | some m => exact (ih _).trans (and_iff_right rfl).symm
  exact folded 0

/-- Four characters of a text that goes on after them are the digits of an escape if they spell a
number. -/
lemma exists_hexDigits_eq {n : Nat} (goesOn : (cs.drop 4).isEmpty = false)
    (spelled : ofHex? (cs.take 4) = some n) :
    ∃ digits, cs = digits ++ cs.drop 4 ∧ digits.length = 4 ∧
      ∀ d ∈ digits, (hexDigit? d).isSome = true := by
  refine ⟨cs.take 4, (List.take_append_drop 4 cs).symm, ?_, ?_⟩
  · have ne : cs.drop 4 ≠ [] := by simpa using goesOn
    have lt : 4 < cs.length := by
      by_contra le
      exact ne (List.drop_eq_nil_of_le (Nat.not_lt.1 le))
    exact List.length_take_of_le lt.le
  · rw [← ofHex?_isSome_iff, spelled]
    rfl

/-- What belongs to a numeric escape: its digits, and those of a second escape if both are read
together. -/
lemma exists_front_of_unicodeEscape {c : CodePoint} {length : Nat}
    (read : unicodeEscape cs = .ok (c, length)) :
    ∃ front, cs = front ++ cs.drop length ∧
      ∀ body, IsQuoted body → IsQuoted (.char '\\' :: .char 'u' :: (front ++ body)) := by
  cases readsUnicode_of_unicodeEscape read with
  | single goesOn spelled =>
    obtain ⟨digits, cs_eq, four, hex⟩ := exists_hexDigits_eq goesOn spelled
    exact ⟨digits, cs_eq, fun body => .unicode four hex⟩
  | @pair high low more _ _ spelled drop_eq goesOn spelled' =>
    have goesOn_four : (cs.drop 4).isEmpty = false := by
      rw [drop_eq]
      rfl
    obtain ⟨digits, cs_eq, four, hex⟩ := exists_hexDigits_eq goesOn_four spelled
    obtain ⟨digits', more_eq, four', hex'⟩ := exists_hexDigits_eq goesOn spelled'
    have drop_ten : cs.drop 10 = more.drop 4 := by
      have twice : (cs.drop 4).drop 6 = cs.drop 10 := List.drop_drop
      exact twice.symm.trans (congrArg (List.drop 6) drop_eq)
    refine ⟨digits ++ .char '\\' :: .char 'u' :: digits', ?_, fun body isQuoted => ?_⟩
    · rw [drop_ten, List.append_assoc, List.cons_append, List.cons_append, ← more_eq, ← drop_eq,
        ← cs_eq]
    · rw [List.append_assoc]
      exact .unicode four hex (.unicode four' hex' isQuoted)

/-- What belongs to an escape. -/
lemma exists_front_of_escape {c : CodePoint} {length : Nat}
    (read : escape opening cs = .ok (c, length)) :
    ∃ front, cs = front ++ cs.drop length ∧
      ∀ body, IsQuoted body → IsQuoted (.char '\\' :: (front ++ body)) := by
  cases readsEscape_of_escape read with
  | @short letter _ _ known =>
    exact ⟨[letter], rfl, fun body => .short (Option.isSome_of_eq_some known)⟩
  | unicode numeric =>
    obtain ⟨front, cs_eq, isQuoted⟩ := exists_front_of_unicodeEscape numeric
    exact ⟨.char 'u' :: front, congrArg _ cs_eq, isQuoted⟩

/-- What is read up to a closing quote may stand between quotes. -/
lemma exists_isQuoted {t : Text} (read : chars opening 0 cs = .ok (t, rest)) :
    ∃ body, cs = body ++ .char '"' :: rest ∧ IsQuoted body := by
  induction t generalizing cs with
  | nil => exact ⟨[], chars_eq_nil read, .nil⟩
  | cons c t ih =>
    cases readsChars_of_chars read with
    | escape escaped others =>
      obtain ⟨front, cs_eq, isQuoted⟩ := exists_front_of_escape escaped
      obtain ⟨body, drop_eq, quoted⟩ := ih others
      refine ⟨.char '\\' :: (front ++ body), ?_, isQuoted body quoted⟩
      rw [List.cons_append, List.append_assoc, ← drop_eq, ← cs_eq]
    | plain ne le others =>
      obtain ⟨body, rfl, quoted⟩ := ih others
      exact ⟨c :: body, rfl, .plain ne le quoted⟩

/-- What follows the backslash and the `u` of an escape, up to the closing quote, starts with four
hexadecimal digits. -/
lemma IsQuoted.exists_of_unicode {body more : Text} (quoted : IsQuoted body)
    (written : body ++ .char '"' :: rest = .char '\\' :: .char 'u' :: more) :
    ∃ digits after, body = .char '\\' :: .char 'u' :: (digits ++ after) ∧ digits.length = 4 ∧
      (∀ d ∈ digits, (hexDigit? d).isSome = true) ∧ IsQuoted after := by
  cases quoted with
  | nil => exact absurd (List.cons.inj written).1 (by decide)
  | plain ne => exact absurd (List.cons.inj written).1 ne.2
  | short known =>
    obtain ⟨rfl, _⟩ := List.cons.inj (List.cons.inj written).2
    exact absurd known (by decide)
  | unicode four hex after => exact ⟨_, _, rfl, four, hex, after⟩

/-- A numeric escape is read in front of anything that may stand between quotes, and what is left of
that may stand there too. What follows the closing quote makes no difference. -/
lemma exists_unicodeEscape_eq {body : Text} (four : digits.length = 4)
    (hex : ∀ d ∈ digits, (hexDigit? d).isSome = true) (quoted : IsQuoted body) :
    ∃ c length after, IsQuoted after ∧ after.length ≤ body.length ∧ ∀ rest,
      unicodeEscape (digits ++ (body ++ .char '"' :: rest)) = .ok (c, length) ∧
      (digits ++ (body ++ .char '"' :: rest)).drop length = after ++ .char '"' :: rest := by
  -- four digits that are followed by something are those of an escape
  have four_of {digits : Text} (four : digits.length = 4) {n : Nat} (spelled : ofHex? digits = some n)
      (more rest : Text) :
      ((digits ++ (more ++ .char '"' :: rest)).drop 4).isEmpty = false ∧
        ofHex? ((digits ++ (more ++ .char '"' :: rest)).take 4) = some n := by
    rw [List.take_left' four, List.drop_left' four]
    exact ⟨by simp, spelled⟩
  obtain ⟨high, high_eq⟩ := Option.isSome_iff_exists.1 (ofHex?_isSome_iff.2 hex)
  by_cases paired : isHighSurrogate high = true ∧ ∃ digits' after low,
      body = .char '\\' :: .char 'u' :: (digits' ++ after) ∧ digits'.length = 4 ∧
        IsQuoted after ∧ ofHex? digits' = some low ∧ isLowSurrogate low = true
  · -- a low surrogate follows, and both are read together
    obtain ⟨isHigh, digits', after, low, rfl, four', quoted', low_eq, isLow⟩ := paired
    refine ⟨.ofNumber (0x10000 + (high - 0xd800) * 0x400 + (low - 0xdc00)), 10, after, quoted', ?_,
      fun rest => ⟨?_, ?_⟩⟩
    · rw [List.length_cons, List.length_cons, List.length_append]
      omega
    · obtain ⟨_, spelled⟩ := four_of four high_eq (.char '\\' :: .char 'u' :: (digits' ++ after)) rest
      obtain ⟨goesOn, spelled'⟩ := four_of four' low_eq after rest
      refine (ReadsUnicode.pair isHigh isLow spelled ?_ goesOn spelled').unicodeEscape_eq
      rw [List.drop_left' four, List.cons_append, List.cons_append, List.append_assoc]
    · have front : digits ++ ((.char '\\' :: .char 'u' :: (digits' ++ after)) ++
          .char '"' :: rest) =
          (digits ++ .char '\\' :: .char 'u' :: digits') ++ (after ++ .char '"' :: rest) := by
        simp
      rw [front]
      exact List.drop_left' (by simp [four, four'])
  · refine ⟨.ofNumber high, 4, body, quoted, le_rfl, fun rest => ⟨?_, List.drop_left' four⟩⟩
    obtain ⟨goesOn, spelled⟩ := four_of four high_eq body rest
    refine (ReadsUnicode.single goesOn spelled fun isHigh more drop_eq => ?_).unicodeEscape_eq
    rw [List.drop_left' four] at drop_eq
    obtain ⟨digits', after, rfl, four', hex', quoted'⟩ := quoted.exists_of_unicode drop_eq
    obtain ⟨low, low_eq⟩ := Option.isSome_iff_exists.1 (ofHex?_isSome_iff.2 hex')
    obtain rfl : digits' ++ (after ++ .char '"' :: rest) = more := by
      rw [← List.append_assoc]
      exact (List.cons.inj (List.cons.inj drop_eq).2).2
    have notLow : ¬ isLowSurrogate low = true := fun isLow =>
      paired ⟨isHigh, digits', after, low, rfl, four', quoted', low_eq, isLow⟩
    exact .inr ⟨low, (four_of four' low_eq after rest).2, Bool.eq_false_iff.2 notLow⟩

/-- What may stand between quotes is read up to the closing one, and always as the same text. -/
lemma exists_chars_eq {body : Text} (quoted : IsQuoted body) :
    ∃ t, ∀ opening rest, chars opening 0 (body ++ .char '"' :: rest) = .ok (t, rest) := by
  -- two numeric escapes may be read together, so the induction is not on the structure of the body
  induction length_eq : body.length using Nat.strong_induction_on generalizing body with
  | h length ih =>
    subst length_eq
    cases quoted with
    | nil => exact ⟨[], fun _ _ => rfl⟩
    | @plain c more ne le quoted =>
      obtain ⟨t, reads⟩ := ih _ (Nat.lt_succ_self _) quoted rfl
      exact ⟨c :: t, fun opening rest => chars_of_plain ne le (reads opening rest)⟩
    | @short letter more known quoted =>
      obtain ⟨t, reads⟩ := ih _ (Nat.lt_succ_of_lt (Nat.lt_succ_self _)) quoted rfl
      obtain ⟨c, known⟩ := Option.isSome_iff_exists.1 known
      exact ⟨c :: t, fun opening rest => chars_of_escaped (escape_of_short known) (reads opening rest)⟩
    | @unicode digits more four hex quoted =>
      obtain ⟨c, length, after, quoted', le, escaped⟩ := exists_unicodeEscape_eq four hex quoted
      have lt : after.length < (.char '\\' :: .char 'u' :: (digits ++ more) : Text).length := by
        rw [List.length_cons, List.length_cons, List.length_append]
        omega
      obtain ⟨t, reads⟩ := ih _ lt quoted' rfl
      refine ⟨c :: t, fun opening rest => ?_⟩
      obtain ⟨read, drop_eq⟩ := escaped rest
      rw [List.cons_append, List.cons_append, List.append_assoc]
      refine chars_of_escaped (escape_of_unicode read) ?_
      rw [List.drop_succ_cons, drop_eq, reads]

end CompileFlags.Json
