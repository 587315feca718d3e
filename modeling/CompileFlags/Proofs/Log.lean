import CompileFlags.Proofs.Bytes
import CompileFlags.Proofs.FileSystem.Writing
import CompileFlags.Proofs.Json.Text
import CompileFlags.Session

/-!
# What can be logged

Logging lines that have bytes never ends with a fault, whatever becomes of the log file
(`Session.fault_log_of_hasBytes`). A line that has none ends it exactly if the log file can be opened
(`Session.Tolerates`, `Session.fault_log_eq_none_iff`): where it cannot, that failure is noted, the
line is passed over, and no file is touched (`Session.log_of_append_eq_error`). What is logged before
makes no difference to that (`Session.tolerates_log`).
-/

namespace CompileFlags

/-- Whether a file can be written to does not depend on what is written. -/
lemma FileSystem.append_eq_error {fs : FileSystem} {cwd : CurrentDirectory} {p : Text}
    {content other : ByteArray} {fault : AccessFault}
    (failed : fs.append cwd p content = .error fault) :
    fs.append cwd p other = .error fault := by
  rw [append, update] at failed ⊢
  split at failed
  · exact failed
  · exact failed
  · split at failed
    · exact failed
    · exact absurd failed (by simp)
  · split at failed
    · exact failed
    · exact absurd failed (by simp)
    · exact failed

namespace Session

variable {env : Env} {s : Session} {fs fs' : FileSystem} {line : Text} {lines more : List Text}

/-- A line has bytes with its time if it has them without. -/
@[simp]
lemma hasBytes_logLine : (logLine env line).HasBytes ↔ line.HasBytes := by
  simp [logLine]

/-- A line that has bytes is written, if the log file can be. -/
lemma appendLine_of_hasBytes (h : line.HasBytes) :
    s.appendLine env fs line =
      (fs.append env.cwd s.logFile (logLine env line).display.toUTF8).map (·, none) := by
  rw [appendLine, Text.encodeUtf8_of_hasBytes (hasBytes_logLine.2 h)]

/-- Of a line that has no bytes nothing is written. -/
lemma exists_appendLine_eq (env : Env) (s : Session) (fs : FileSystem) (h : ¬ line.HasBytes) :
    ∃ fault, s.appendLine env fs line =
      (fs.append env.cwd s.logFile .empty).map (·, some (.unencodable fault)) := by
  have noBytes : ¬ (logLine env line).HasBytes := mt hasBytes_logLine.1 h
  obtain ⟨fault, failed⟩ := Text.exists_encodeUtf8_eq_error noBytes
  exact ⟨fault, by rw [appendLine, failed]⟩

/-- No line is written to a log file that cannot be opened. -/
lemma appendLine_eq_error {fault : AccessFault} {content : ByteArray}
    (failed : fs.append env.cwd s.logFile content = .error fault) :
    s.appendLine env fs line = .error fault := by
  by_cases h : line.HasBytes
  · rw [appendLine_of_hasBytes h, FileSystem.append_eq_error failed]
    rfl
  · obtain ⟨encoding, appended⟩ := exists_appendLine_eq env s fs h
    rw [appended, FileSystem.append_eq_error failed]
    rfl

/-- Where a line has been logged, the log file has been opened. -/
lemma exists_append_of_appendLine {fault : Option AccessFault}
    (appended : s.appendLine env fs line = .ok (fs', fault)) :
    ∃ content, fs.append env.cwd s.logFile content = .ok fs' := by
  rw [appendLine] at appended
  split at appended
  · obtain ⟨_, opened, e⟩ := Json.map_eq_ok_iff.1 appended
    obtain ⟨rfl, _⟩ := Prod.mk.inj e
    exact ⟨_, opened⟩
  · obtain ⟨_, opened, e⟩ := Json.map_eq_ok_iff.1 appended
    obtain ⟨rfl, _⟩ := Prod.mk.inj e
    exact ⟨_, opened⟩

/-- Whether logging goes on after a line: if the line has bytes, or if the log file cannot be
opened. -/
def Tolerates (env : Env) (s : Session) (fs : FileSystem) (line : Text) : Prop :=
  line.HasBytes ∨ ∃ fault, fs.append env.cwd s.logFile .empty = .error fault

/-- A line that has been logged is followed by the others. -/
lemma log_cons_of_written (appended : s.appendLine env fs line = .ok (fs', none)) :
    s.log env fs (line :: lines) = s.log env fs' lines := by
  rw [log, appended]

/-- A line that has no bytes ends the logging. -/
lemma log_cons_of_unencodable {fault : AccessFault}
    (appended : s.appendLine env fs line = .ok (fs', some fault)) :
    s.log env fs (line :: lines) = (s, fs', some fault) := by
  rw [log, appended]

/-- Where the log file cannot be opened, that is noted, unless a failure was noted before, and the line
is passed over. -/
lemma log_cons_of_unopened {fault : AccessFault}
    (appended : s.appendLine env fs line = .error fault) :
    s.log env fs (line :: lines) =
      { s with logFault := s.logFault.or (some fault) }.log env fs lines := by
  rw [log, appended]

/-- Lines are logged one after the other. -/
lemma log_append : s.log env fs (lines ++ more) =
    match s.log env fs lines with
    | (s, fs, none) => s.log env fs more
    | (s, fs, some fault) => (s, fs, some fault) := by
  induction lines generalizing s fs with
  | nil => rfl
  | cons line rest ih =>
    rw [List.cons_append]
    cases appended : s.appendLine env fs line with
    | error fault =>
      rw [log_cons_of_unopened appended, log_cons_of_unopened appended]
      exact ih
    | ok written =>
      obtain ⟨fs', _ | fault⟩ := written
      · rw [log_cons_of_written appended, log_cons_of_written appended]
        exact ih
      · rw [log_cons_of_unencodable appended, log_cons_of_unencodable appended]

/-- Lines that are logged after others end the logging where the others do not. -/
lemma fault_log_append : (s.log env fs (lines ++ more)).2.2 = (s.log env fs lines).2.2.or
    ((s.log env fs lines).1.log env (s.log env fs lines).2.1 more).2.2 := by
  rw [log_append]
  split
  · rename_i logged
    rw [logged, Option.none_or]
  · rename_i logged
    rw [logged, Option.some_or]

/-- Logging changes nothing of a session but what it holds of a log file that cannot be opened. -/
lemma exists_log_eq (env : Env) (s : Session) (fs : FileSystem) (lines : List Text) :
    ∃ logFault, (s.log env fs lines).1 = { s with logFault := logFault } := by
  induction lines generalizing s fs with
  | nil => exact ⟨s.logFault, rfl⟩
  | cons line rest ih =>
    cases appended : s.appendLine env fs line with
    | error fault =>
      rw [log_cons_of_unopened appended]
      exact ih _ fs
    | ok written =>
      obtain ⟨fs', _ | fault⟩ := written
      · rw [log_cons_of_written appended]
        exact ih s fs'
      · rw [log_cons_of_unencodable appended]
        exact ⟨s.logFault, rfl⟩

/-- Logging does not change which file is logged to. -/
@[simp]
lemma logFile_log : (s.log env fs lines).1.logFile = s.logFile := by
  obtain ⟨logFault, eq⟩ := exists_log_eq env s fs lines
  rw [eq]

/-- Logging changes no setting. -/
@[simp]
lemma settings_log : (s.log env fs lines).1.settings = s.settings := by
  obtain ⟨logFault, eq⟩ := exists_log_eq env s fs lines
  rw [eq]

/-- What becomes of the files depends on a session by its log file alone. -/
lemma log_congr {s' : Session} (same : s'.logFile = s.logFile) :
    (s'.log env fs lines).2 = (s.log env fs lines).2 := by
  induction lines generalizing s s' fs with
  | nil => rfl
  | cons line rest ih =>
    have appended : s'.appendLine env fs line = s.appendLine env fs line := by
      rw [appendLine, appendLine, same]
    cases outcome : s.appendLine env fs line with
    | error fault =>
      rw [log_cons_of_unopened outcome, log_cons_of_unopened (appended.trans outcome)]
      exact ih same
    | ok written =>
      obtain ⟨fs', _ | fault⟩ := written
      · rw [log_cons_of_written outcome, log_cons_of_written (appended.trans outcome)]
        exact ih same
      · rw [log_cons_of_unencodable outcome, log_cons_of_unencodable (appended.trans outcome)]

/-- Where the log file has been opened, only lines that have bytes are tolerated. -/
lemma tolerates_iff_of_append {content : ByteArray}
    (opened : fs.append env.cwd s.logFile content = .ok fs') :
    s.Tolerates env fs line ↔ line.HasBytes := by
  refine ⟨fun tolerated => tolerated.resolve_right ?_, .inl⟩
  rintro ⟨fault, failed⟩
  exact absurd (opened.symm.trans (FileSystem.append_eq_error failed)) (by simp)

/-- A line is tolerated where another has been written before exactly if it was tolerated there. -/
lemma tolerates_of_append {content : ByteArray}
    (opened : fs.append env.cwd s.logFile content = .ok fs') :
    s.Tolerates env fs' line ↔ s.Tolerates env fs line := by
  obtain ⟨_, again⟩ := FileSystem.exists_update_of_grows opened (.refl fs') (· ++ .empty)
  rw [tolerates_iff_of_append opened, tolerates_iff_of_append again]

/-- Lines are logged without a fault exactly if each is tolerated. -/
lemma fault_log_eq_none_iff :
    (s.log env fs lines).2.2 = none ↔ ∀ line ∈ lines, s.Tolerates env fs line := by
  -- a line that is logged changes the files, but not which of the lines behind it are tolerated
  induction lines generalizing s fs with
  | nil => simp [log]
  | cons line rest ih =>
    rw [List.forall_mem_cons]
    by_cases head : line.HasBytes
    · have tolerated : s.Tolerates env fs line := .inl head
      have appended : s.appendLine env fs line =
          (fs.append env.cwd s.logFile (logLine env line).display.toUTF8).map (·, none) :=
        appendLine_of_hasBytes head
      cases opened : fs.append env.cwd s.logFile (logLine env line).display.toUTF8 with
      | ok fs' =>
        rw [opened] at appended
        rw [log_cons_of_written appended]
        refine ih.trans ((forall₂_congr fun _ _ => tolerates_of_append opened).trans ?_)
        exact (and_iff_right tolerated).symm
      | error fault =>
        rw [opened] at appended
        rw [log_cons_of_unopened appended]
        exact ih.trans (and_iff_right tolerated).symm
    · obtain ⟨encoding, appended⟩ := exists_appendLine_eq env s fs head
      cases opened : fs.append env.cwd s.logFile .empty with
      | ok fs' =>
        rw [opened] at appended
        rw [log_cons_of_unencodable appended]
        exact iff_of_false (by simp) fun h => head ((tolerates_iff_of_append opened).1 h.1)
      | error fault =>
        rw [opened] at appended
        rw [log_cons_of_unopened appended]
        exact ih.trans (and_iff_right (Or.inr ⟨fault, opened⟩)).symm

/-- A line is tolerated after others exactly if it was tolerated before. -/
lemma tolerates_log : (s.log env fs lines).1.Tolerates env (s.log env fs lines).2.1 line ↔
    s.Tolerates env fs line := by
  induction lines generalizing s fs with
  | nil => rfl
  | cons first rest ih =>
    cases appended : s.appendLine env fs first with
    | error fault =>
      rw [log_cons_of_unopened appended]
      exact ih
    | ok opened =>
      obtain ⟨fs', fault⟩ := opened
      obtain ⟨content, opened⟩ := exists_append_of_appendLine appended
      cases fault with
      | none =>
        rw [log_cons_of_written appended]
        exact ih.trans (tolerates_of_append opened)
      | some fault =>
        rw [log_cons_of_unencodable appended]
        exact tolerates_of_append opened

/-- Lines that have bytes are logged without a fault. -/
lemma fault_log_of_hasBytes (h : ∀ line ∈ lines, line.HasBytes) :
    (s.log env fs lines).2.2 = none :=
  fault_log_eq_none_iff.2 fun line mem => .inl (h line mem)

/-- A line that is tolerated is no obstacle to others that have bytes. -/
lemma fault_log_cons_of_tolerates (tolerated : s.Tolerates env fs line)
    (h : ∀ line ∈ lines, line.HasBytes) : (s.log env fs (line :: lines)).2.2 = none :=
  fault_log_eq_none_iff.2 (List.forall_mem_cons.2 ⟨tolerated, fun line mem => .inl (h line mem)⟩)

/-- A line that is not tolerated ends the logging with the reason for which it has no bytes. -/
lemma fault_log_cons_of_encodeUtf8 {fault : Text.EncodingFault} (refused : ¬ s.Tolerates env fs line)
    (noBytes : Text.encodeUtf8 (logLine env line) = .error fault) :
    (s.log env fs (line :: lines)).2.2 = some (.unencodable fault) := by
  cases opened : fs.append env.cwd s.logFile .empty with
  | ok fs' =>
    have appended : s.appendLine env fs line = .ok (fs', some (.unencodable fault)) := by
      rw [appendLine, noBytes, opened]
      rfl
    rw [log_cons_of_unencodable appended]
  | error access => exact absurd (.inr ⟨access, opened⟩) refused

lemma fault_log_cons_of_not_tolerates (refused : ¬ s.Tolerates env fs line) :
    ∃ fault, (s.log env fs (line :: lines)).2.2 = some (.unencodable fault) := by
  obtain ⟨fault, noBytes⟩ :=
    Text.exists_encodeUtf8_eq_error (mt hasBytes_logLine.1 (not_or.1 refused).1)
  exact ⟨fault, fault_log_cons_of_encodeUtf8 refused noBytes⟩

/-- Where the same lines are tolerated, logging ends alike. -/
lemma fault_log_congr {s' : Session}
    (same : ∀ line, s'.Tolerates env fs' line ↔ s.Tolerates env fs line) :
    (s'.log env fs' lines).2.2 = (s.log env fs lines).2.2 := by
  induction lines generalizing s s' fs fs' with
  | nil => rfl
  | cons line rest ih =>
    by_cases tolerated : s.Tolerates env fs line
    · have passed : (s.log env fs [line]).2.2 = none :=
        fault_log_eq_none_iff.2 (List.forall_mem_singleton.2 tolerated)
      have passed' : (s'.log env fs' [line]).2.2 = none :=
        fault_log_eq_none_iff.2 (List.forall_mem_singleton.2 ((same line).2 tolerated))
      rw [← List.singleton_append, fault_log_append, fault_log_append, passed, passed',
        Option.none_or, Option.none_or]
      exact ih fun other => tolerates_log.trans ((same other).trans tolerates_log.symm)
    · obtain ⟨fault, noBytes⟩ :=
        Text.exists_encodeUtf8_eq_error (mt hasBytes_logLine.1 (not_or.1 tolerated).1)
      rw [fault_log_cons_of_encodeUtf8 tolerated noBytes,
        fault_log_cons_of_encodeUtf8 (mt (same line).1 tolerated) noBytes]

/-- A log file that cannot be opened leaves the files as they are, and ends no logging. -/
lemma log_of_append_eq_error {fault : AccessFault} {content : ByteArray}
    (failed : fs.append env.cwd s.logFile content = .error fault) :
    (s.log env fs lines).2 = (fs, none) := by
  induction lines generalizing s with
  | nil => rfl
  | cons line rest ih =>
    rw [log_cons_of_unopened (appendLine_eq_error failed)]
    exact ih (s := { s with logFault := _ }) failed

/-- The first failure to open the log file is noted. -/
lemma logFault_log_cons {fault : AccessFault} {content : ByteArray}
    (failed : fs.append env.cwd s.logFile content = .error fault) :
    (s.log env fs (line :: lines)).1.logFault = s.logFault.or (some fault) := by
  rw [log_cons_of_unopened (appendLine_eq_error failed)]
  induction lines generalizing s with
  | nil => rfl
  | cons next rest ih =>
    let noted : Session := { s with logFault := s.logFault.or (some fault) }
    have failed' : fs.append env.cwd noted.logFile content = .error fault := failed
    rw [log_cons_of_unopened (appendLine_eq_error failed')]
    refine (ih failed').trans ?_
    rw [Option.or_assoc, Option.some_or]

end Session

end CompileFlags
