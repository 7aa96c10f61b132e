import Smsl.Source.File

namespace Smsl

/-!
# Limits on source files

A read makes its checks in a fixed order and fails with the first that does not
pass.  The checks are stated here one by one, each with its error and without
regard to the others; a read succeeds exactly if none of them fails.  Larger
limits let more files pass and change nothing for those that passed, and the
lines of a file are those of its text held in memory.
-/

/-- Bytes are decoded to the text whose UTF-8 form they are. -/
theorem Text.decode?_eq_some_iff
    {bytes : ByteArray}
    {text : Text} :
    decode? bytes = some text ↔ (String.ofList text).toUTF8 = bytes := by
  unfold decode? String.fromUTF8?
  split
  · rename_i valid
    constructor
    · intro decoded
      cases decoded
      rw [String.ofList_toList]
      rfl
    · intro encodes
      subst encodes
      exact congrArg some String.toList_ofList
  · rename_i invalid
    constructor
    · intro decoded
      cases decoded
    · intro encodes
      rw [← encodes] at invalid
      exact absurd (String.ofList text).isValidUTF8 invalid

/-- Bytes are the UTF-8 form of at most one text. -/
theorem Text.eq_of_toUTF8
    {first second : Text}
    (same : (String.ofList first).toUTF8 = (String.ofList second).toUTF8) :
    first = second := by
  have decoded := Text.decode?_eq_some_iff.mpr same
  rw [Text.decode?_eq_some_iff.mpr rfl] at decoded
  cases decoded
  rfl

/-- What a read checks. -/
inductive FileCheck where
  | emptyPath
  | notFound
  | notRegular
  | tooLarge
  | wrongExtension
  | invalidEncoding
  | tooManyLines
  deriving Repr, DecidableEq

namespace FileCheck

/-- The checks, in the order in which they count. -/
def inOrder : List FileCheck :=
  [.emptyPath, .notFound, .notRegular, .tooLarge, .wrongExtension, .invalidEncoding,
    .tooManyLines]

/-- The checks that count before a check. -/
def earlier (check : FileCheck) : List FileCheck :=
  inOrder.takeWhile fun other => other ≠ check

theorem mem_inOrder (check : FileCheck) :
    check ∈ inOrder := by
  cases check <;> decide

/-- Of two checks one counts before the other. -/
theorem earlier_total (first second : FileCheck) :
    first = second ∨ first ∈ second.earlier ∨ second ∈ first.earlier := by
  cases first <;> cases second <;> decide

end FileCheck

namespace FileSource

/-- A check fails for what the path leads to, whatever the other checks say. -/
inductive Fails
    (source : FileSource) :
    Lookup → FileCheck → SourceError → Prop where
  | emptyPath
      {found : Lookup}
      (isEmpty : source.path = "") :
      Fails source found .emptyPath (.invalidPath source.path)
  | notFound
      {absence : Absence} :
      Fails source (.absent absence) .notFound (.fileNotFound source.path)
  | notRegular :
      Fails source .directory .notRegular (.invalidPath source.path)
  | tooLarge
      {file : StoredFile}
      (beyond : source.maxFileSize < file.contents.size) :
      Fails source (.file file) .tooLarge
        (.fileTooLarge file.contents.size source.maxFileSize)
  | wrongExtension
      {file : StoredFile}
      (required : source.preferences.requireExtension = true)
      (differs : extensionOf? file ≠ some standardExtension) :
      Fails source (.file file) .wrongExtension (.invalidExtension (extensionOf? file))
  | invalidEncoding
      {file : StoredFile}
      (noText : ∀ text : Text, (String.ofList text).toUTF8 ≠ file.contents) :
      Fails source (.file file) .invalidEncoding (.invalidEncoding source.path)
  | tooManyLines
      {file : StoredFile}
      {text : Text}
      (encodes : (String.ofList text).toUTF8 = file.contents)
      (beyond : source.maxLineCount < (Text.lines text).length) :
      Fails source (.file file) .tooManyLines
        (.tooManyLines (Text.lines text).length source.maxLineCount)

/-- None of some checks fails. -/
def Sound
    (source : FileSource)
    (found : Lookup)
    (checks : List FileCheck) :
    Prop :=
  ∀ check ∈ checks, ∀ error, ¬ source.Fails found check error

/-- A check fails, and none that counts before it. -/
structure FailsFirst
    (source : FileSource)
    (found : Lookup)
    (check : FileCheck)
    (error : SourceError) :
    Prop where
  fails : source.Fails found check error
  first : source.Sound found check.earlier

/-- The path leads to a file with a text that passes all checks. -/
structure Passes
    (source : FileSource)
    (found : Lookup)
    (file : StoredFile)
    (text : Text) :
    Prop where
  isFile : found = .file file
  encodes : (String.ofList text).toUTF8 = file.contents
  sound : source.Sound found FileCheck.inOrder

/-- One more check that does not fail. -/
theorem Sound.next
    {source : FileSource}
    {found : Lookup}
    {checks : List FileCheck}
    (sound : source.Sound found checks)
    (check : FileCheck)
    (passes : ∀ error, ¬ source.Fails found check error) :
    source.Sound found (checks ++ [check]) := by
  intro other member
  rcases List.mem_append.mp member with before | last
  · exact sound other before
  · rw [List.mem_singleton.mp last]
    exact passes

/-- A check fails with one error only. -/
theorem Fails.unique
    {source : FileSource}
    {found : Lookup}
    {check : FileCheck}
    {error otherError : SourceError}
    (fails : source.Fails found check error)
    (failsToo : source.Fails found check otherError) :
    error = otherError := by
  cases fails with
  | tooManyLines encodes _ =>
      cases failsToo with
      | tooManyLines encodesToo _ =>
          rw [Text.eq_of_toUTF8 (encodes.trans encodesToo.symm)]
  | emptyPath | notFound | notRegular | tooLarge | wrongExtension | invalidEncoding =>
      cases failsToo
      rfl

/-! What a read does, check by check. -/

theorem read_lines
    (source : FileSource)
    (found : Lookup) :
    (source.read found).lines =
      (source.locate found >>= source.linesOf).mapError ReadFailure.error := by
  unfold read
  cases source.locate found with
  | error failure =>
      rfl
  | ok file =>
      simp only [bind, Except.bind]
      cases source.linesOf file <;> rfl

/-- The path leads to a file, or one of the first three checks fails. -/
theorem locate_cases
    (source : FileSource)
    (found : Lookup) :
    (∃ file,
      found = .file file ∧
      source.Sound found FileCheck.tooLarge.earlier ∧
      source.locate found = .ok file) ∨
    (∃ check failure,
      source.FailsFirst found check failure.error ∧
      source.locate found = .error failure) := by
  unfold locate
  by_cases isEmpty : source.path = ""
  · rw [if_pos isEmpty]
    exact .inr ⟨.emptyPath, _, ⟨.emptyPath isEmpty, nofun⟩, rfl⟩
  · rw [if_neg isEmpty]
    have named : source.Sound found FileCheck.notFound.earlier := by
      have unchecked : source.Sound found [] := nofun
      refine unchecked.next .emptyPath ?_
      intro _ fails
      cases fails
      contradiction
    cases found with
    | absent absence =>
        exact .inr ⟨.notFound, _, ⟨.notFound, named⟩, rfl⟩
    | directory =>
        exact .inr ⟨.notRegular, _, ⟨.notRegular, named.next .notFound nofun⟩, rfl⟩
    | file file =>
        exact .inl ⟨file, rfl, (named.next .notFound nofun).next .notRegular nofun, rfl⟩

/-- A located file passes the two checks that need no contents, or the first to fail is told. -/
theorem checkLimits_cases
    {source : FileSource}
    {file : StoredFile}
    (located : source.Sound (.file file) FileCheck.tooLarge.earlier) :
    (source.Sound (.file file) FileCheck.invalidEncoding.earlier ∧
      source.checkLimits file = .ok ()) ∨
    (∃ check failure,
      source.FailsFirst (.file file) check failure.error ∧
      source.checkLimits file = .error failure) := by
  unfold checkLimits
  by_cases large : source.maxFileSize < file.size
  · rw [if_pos large]
    exact .inr ⟨.tooLarge, _, ⟨.tooLarge large, located⟩, rfl⟩
  · rw [if_neg large]
    have small : source.Sound (.file file) FileCheck.wrongExtension.earlier := by
      refine located.next .tooLarge ?_
      intro _ fails
      cases fails
      contradiction
    by_cases wrong :
        source.preferences.requireExtension ∧ extensionOf? file ≠ some standardExtension
    · rw [if_pos wrong]
      exact .inr ⟨.wrongExtension, _, ⟨.wrongExtension wrong.1 wrong.2, small⟩, rfl⟩
    · rw [if_neg wrong]
      refine .inl ⟨small.next .wrongExtension ?_, rfl⟩
      intro _ fails
      cases fails with
      | wrongExtension required differs =>
          exact wrong ⟨required, differs⟩

/-- A file within its limits gives its lines, or the first check of its text to fail is told. -/
theorem decode_cases
    {source : FileSource}
    {file : StoredFile}
    (withinLimits : source.Sound (.file file) FileCheck.invalidEncoding.earlier) :
    (∃ text,
      source.Passes (.file file) file text ∧
      source.decode file = .ok (Text.lines text)) ∨
    (∃ check failure,
      source.FailsFirst (.file file) check failure.error ∧
      source.decode file = .error failure) := by
  unfold decode
  cases decoded : Text.decode? file.contents with
  | none =>
      have noText : ∀ text : Text, (String.ofList text).toUTF8 ≠ file.contents := by
        intro text encodes
        rw [Text.decode?_eq_some_iff.mpr encodes] at decoded
        cases decoded
      exact
        .inr ⟨.invalidEncoding, _, ⟨.invalidEncoding noText, withinLimits⟩, rfl⟩
  | some text =>
      have encodes := Text.decode?_eq_some_iff.mp decoded
      have isText : source.Sound (.file file) FileCheck.tooManyLines.earlier := by
        refine withinLimits.next .invalidEncoding ?_
        intro _ fails
        cases fails with
        | invalidEncoding noText =>
            exact noText text encodes
      by_cases many : source.maxLineCount < (Text.lines text).length
      · simp only [if_pos many]
        exact
          .inr ⟨.tooManyLines, _, ⟨.tooManyLines encodes many, isText⟩, rfl⟩
      · simp only [if_neg many]
        refine .inl ⟨text, ⟨rfl, encodes, isText.next .tooManyLines ?_⟩, rfl⟩
        intro _ fails
        cases fails with
        | tooManyLines encodesToo beyond =>
            rw [Text.eq_of_toUTF8 (encodesToo.trans encodes.symm)] at beyond
            exact many beyond

/-- A read gives the lines of a text that passes all checks, or the first that fails. -/
theorem read_cases
    (source : FileSource)
    (found : Lookup) :
    (∃ file text,
      source.Passes found file text ∧
      (source.read found).lines = .ok (Text.lines text)) ∨
    (∃ check error,
      source.FailsFirst found check error ∧
      (source.read found).lines = .error error) := by
  rw [read_lines]
  obtain ⟨file, rfl, located, isFile⟩ | ⟨check, failure, fails, failed⟩ :=
    source.locate_cases found
  · obtain ⟨withinLimits, checked⟩ | ⟨check, failure, fails, failed⟩ :=
      checkLimits_cases located
    · obtain ⟨text, passes, decoded⟩ | ⟨check, failure, fails, failed⟩ :=
        decode_cases withinLimits
      · refine .inl ⟨file, text, passes, ?_⟩
        simp only [isFile, linesOf, checked, decoded, bind, Except.bind]
        rfl
      · refine .inr ⟨check, failure.error, fails, ?_⟩
        simp only [isFile, linesOf, checked, failed, bind, Except.bind]
        rfl
    · refine .inr ⟨check, failure.error, fails, ?_⟩
      simp only [isFile, linesOf, failed, bind, Except.bind]
      rfl
  · refine .inr ⟨check, failure.error, fails, ?_⟩
    rw [failed]
    rfl

/-- At most one check fails first. -/
theorem FailsFirst.unique
    {source : FileSource}
    {found : Lookup}
    {check otherCheck : FileCheck}
    {error otherError : SourceError}
    (fails : source.FailsFirst found check error)
    (failsToo : source.FailsFirst found otherCheck otherError) :
    error = otherError := by
  rcases check.earlier_total otherCheck with rfl | before | behind
  · exact fails.fails.unique failsToo.fails
  · exact absurd fails.fails (failsToo.first check before error)
  · exact absurd failsToo.fails (fails.first otherCheck behind otherError)

/-- A read succeeds exactly if no check fails, and then gives the lines of the text. -/
theorem read_eq_ok_iff
    {source : FileSource}
    {found : Lookup}
    {lines : List Text} :
    (source.read found).lines = .ok lines ↔
      ∃ file text, source.Passes found file text ∧ Text.lines text = lines := by
  obtain ⟨file, text, passes, isRead⟩ | ⟨check, error, fails, failed⟩ :=
    source.read_cases found
  · rw [isRead]
    constructor
    · intro same
      exact ⟨file, text, passes, Except.ok.inj same⟩
    · rintro ⟨other, otherText, passesToo, rfl⟩
      cases passes.isFile.symm.trans passesToo.isFile
      rw [Text.eq_of_toUTF8 (passes.encodes.trans passesToo.encodes.symm)]
  · rw [failed]
    constructor
    · intro same
      cases same
    · rintro ⟨_, _, passes, _⟩
      exact absurd fails.fails (passes.sound check check.mem_inOrder error)

/-- A read fails exactly with the error of the first check that fails. -/
theorem read_eq_error_iff
    {source : FileSource}
    {found : Lookup}
    {error : SourceError} :
    (source.read found).lines = .error error ↔
      ∃ check, source.FailsFirst found check error := by
  obtain ⟨file, text, passes, isRead⟩ | ⟨check, told, fails, failed⟩ :=
    source.read_cases found
  · rw [isRead]
    constructor
    · intro same
      cases same
    · rintro ⟨check, fails⟩
      exact absurd fails.fails (passes.sound check check.mem_inOrder error)
  · rw [failed]
    constructor
    · intro same
      cases same
      exact ⟨check, fails⟩
    · rintro ⟨_, failsToo⟩
      rw [fails.unique failsToo]

/-! Larger limits. -/

/-- What fails under large limits fails under small ones. -/
theorem Fails.tighten
    {source : FileSource}
    {found : Lookup}
    {maxFileSize maxLineCount largerSize largerCount : Nat}
    (fewerBytes : maxFileSize ≤ largerSize)
    (fewerLines : maxLineCount ≤ largerCount)
    {check : FileCheck}
    {error : SourceError}
    (fails : (source.withLimits largerSize largerCount).Fails found check error) :
    ∃ tighter, (source.withLimits maxFileSize maxLineCount).Fails found check tighter := by
  cases fails with
  | emptyPath isEmpty =>
      exact ⟨_, .emptyPath isEmpty⟩
  | notFound =>
      exact ⟨_, .notFound⟩
  | notRegular =>
      exact ⟨_, .notRegular⟩
  | tooLarge beyond =>
      simp only [withLimits] at beyond
      refine ⟨_, .tooLarge ?_⟩
      simp only [withLimits]
      omega
  | wrongExtension required differs =>
      exact ⟨_, .wrongExtension required differs⟩
  | invalidEncoding noText =>
      exact ⟨_, .invalidEncoding noText⟩
  | tooManyLines encodes beyond =>
      simp only [withLimits] at beyond
      refine ⟨_, .tooManyLines encodes ?_⟩
      simp only [withLimits]
      omega

theorem Passes.loosen
    {source : FileSource}
    {found : Lookup}
    {file : StoredFile}
    {text : Text}
    {maxFileSize maxLineCount largerSize largerCount : Nat}
    (fewerBytes : maxFileSize ≤ largerSize)
    (fewerLines : maxLineCount ≤ largerCount)
    (passes : (source.withLimits maxFileSize maxLineCount).Passes found file text) :
    (source.withLimits largerSize largerCount).Passes found file text := by
  refine ⟨passes.isFile, passes.encodes, ?_⟩
  intro check member error fails
  obtain ⟨tighter, failsToo⟩ := fails.tighten fewerBytes fewerLines
  exact passes.sound check member tighter failsToo

theorem Passes.size_le
    {source : FileSource}
    {found : Lookup}
    {file : StoredFile}
    {text : Text}
    (passes : source.Passes found file text) :
    file.contents.size ≤ source.maxFileSize := by
  obtain ⟨rfl, _, sound⟩ := passes
  apply Nat.le_of_not_lt
  intro beyond
  exact sound .tooLarge (FileCheck.mem_inOrder _) _ (.tooLarge beyond)

theorem Passes.length_lines_le
    {source : FileSource}
    {found : Lookup}
    {file : StoredFile}
    {text : Text}
    (passes : source.Passes found file text) :
    (Text.lines text).length ≤ source.maxLineCount := by
  obtain ⟨rfl, encodes, sound⟩ := passes
  apply Nat.le_of_not_lt
  intro beyond
  exact sound .tooManyLines (FileCheck.mem_inOrder _) _ (.tooManyLines encodes beyond)

/-- A read that agrees with its text in memory, within the limits that count. -/
structure AgreesWithMemory
    (found : Lookup)
    (maxFileSize maxLineCount : Nat)
    (file : StoredFile)
    (text : Text)
    (lines : List Text) :
    Prop where
  isFile : found = .file file
  encodes : (String.ofList text).toUTF8 = file.contents
  size_le : file.contents.size ≤ min maxFileSize Limits.maxFileSize
  count_le : lines.length ≤ min maxLineCount Limits.maxLineCount
  inMemory : ∀ name, (LoadedUnit.ofText name text).lines = .ok lines

/--
The limits of a source only tighten those of the build.  A file that is read under
some limits is read alike under larger ones, and its lines are those of its text
in memory.  A read fails exactly with the error of the first check that fails.
-/
theorem limits_only_tighten
    (source : FileSource)
    (found : Lookup)
    {maxFileSize maxLineCount largerSize largerCount : Nat}
    (fewerBytes : maxFileSize ≤ largerSize)
    (fewerLines : maxLineCount ≤ largerCount) :
    (∀ lines,
      ((source.withLimits maxFileSize maxLineCount).read found).lines = .ok lines →
        ((source.withLimits largerSize largerCount).read found).lines = .ok lines ∧
        ∃ file text,
          AgreesWithMemory found maxFileSize maxLineCount file text lines) ∧
    (Limits.maxFileSize ≤ maxFileSize →
      (source.withLimits maxFileSize maxLineCount).read found =
        (source.withLimits Limits.maxFileSize maxLineCount).read found) ∧
    (Limits.maxLineCount ≤ maxLineCount →
      (source.withLimits maxFileSize maxLineCount).read found =
        (source.withLimits maxFileSize Limits.maxLineCount).read found) ∧
    (∀ error,
      ((source.withLimits maxFileSize maxLineCount).read found).lines = .error error ↔
        ∃ check,
          (source.withLimits maxFileSize maxLineCount).FailsFirst found check error) := by
  refine ⟨?_, ?_, ?_, fun _ => read_eq_error_iff⟩
  · intro lines isRead
    obtain ⟨file, text, passes, rfl⟩ := read_eq_ok_iff.mp isRead
    refine ⟨read_eq_ok_iff.mpr ⟨file, text, passes.loosen fewerBytes fewerLines, rfl⟩, ?_⟩
    exact
      ⟨file, text, passes.isFile, passes.encodes, passes.size_le, passes.length_lines_le,
        fun _ => rfl⟩
  · intro above
    simp only [withLimits, Nat.min_eq_right above, Nat.min_self]
  · intro above
    simp only [withLimits, Nat.min_eq_right above, Nat.min_self]

/-- A file that fits its limits exactly; one byte less, and its size is told before its lines. -/
theorem limits_only_tighten_of_exact_fit :
    (((ofPath "unit.smsl" { requireExtension := true, logPerformance := false }).withLimits
          6 1).read (.file { name := "unit.smsl", contents := "état\n".toUTF8 })).lines =
        .ok ["état".toList] ∧
      (((ofPath "unit.smsl" { requireExtension := true, logPerformance := false }).withLimits
          7 2).read (.file { name := "unit.smsl", contents := "état\n".toUTF8 })).lines =
        .ok ["état".toList] ∧
      ∃ check,
        ((ofPath "unit.smsl" { requireExtension := true, logPerformance := false }).withLimits
          5 0).FailsFirst (.file { name := "unit.smsl", contents := "état\n".toUTF8 }) check
            (.fileTooLarge 6 5) := by
  have isRead :
      (((ofPath "unit.smsl" { requireExtension := true, logPerformance := false }).withLimits
          6 1).read (.file { name := "unit.smsl", contents := "état\n".toUTF8 })).lines =
        .ok ["état".toList] := by
    rfl
  have larger :=
    limits_only_tighten
      (ofPath "unit.smsl" { requireExtension := true, logPerformance := false })
      (.file { name := "unit.smsl", contents := "état\n".toUTF8 })
      (by decide : 6 ≤ 7) (by decide : 1 ≤ 2)
  have smaller :=
    limits_only_tighten
      (ofPath "unit.smsl" { requireExtension := true, logPerformance := false })
      (.file { name := "unit.smsl", contents := "état\n".toUTF8 })
      (by decide : 5 ≤ 6) (by decide : 0 ≤ 1)
  refine ⟨isRead, (larger.1 _ isRead).1, (smaller.2.2.2 _).mp ?_⟩
  rfl

end FileSource

end Smsl
