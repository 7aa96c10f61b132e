import Smsl.Compilation.Console
import Smsl.Proofs.GatedRuns
import Smsl.Proofs.RefusedRuns

namespace Smsl

/-!
# Output to a limited writer

A writer with room for a number of bytes takes a text in whatever pieces it comes
until it is full, and then refuses.  What was written by then is exactly the
beginning of the text that a writer without a limit would have written.  A
refusal inside a delivery ends the whole run: no delivery is made and no event is
logged after it, and no unit stays set.
-/

namespace Writer

/-- A writer of a capacity has room for so many bytes. -/
def holds
    (capacity : Option Nat)
    (size : Nat) :
    Bool :=
  capacity.all fun limit => size ≤ limit

/-- What becomes of an empty writer of a capacity to which bytes are written. -/
def filled
    (capacity : Option Nat)
    (bytes : Array UInt8) :
    Except (Refusal Writer) Writer :=
  if holds capacity bytes.size then
    .ok { capacity, written := bytes }
  else
    .error
      { reason := fullReason
        sink := { capacity, written := bytes.take (capacity.getD bytes.size) } }

/-- Bytes behind others fill a writer like all of them at once. -/
theorem write_eq_filled
    {capacity : Option Nat}
    {written : Array UInt8}
    (fits : holds capacity written.size = true)
    (bytes : Array UInt8) :
    write { capacity, written } bytes = filled capacity (written ++ bytes) := by
  cases capacity with
  | none =>
      rfl
  | some limit =>
      -- An empty piece is taken by a full writer too; it does not go beyond the limit.
      have sameTest :
          (bytes.isEmpty || decide ((written ++ bytes).size ≤ limit)) =
            holds (some limit) (written ++ bytes).size := by
        cases isEmpty : bytes.isEmpty with
        | false =>
            rfl
        | true =>
            rw [Array.isEmpty_iff.mp isEmpty, Array.append_empty]
            exact fits.symm
      simp only [write, sameTest]
      rfl

theorem holds_of_filled
    {capacity : Option Nat}
    {bytes : Array UInt8}
    {writer : Writer}
    (taken : filled capacity bytes = .ok writer) :
    holds capacity bytes.size = true := by
  unfold filled at taken
  split at taken
  · assumption
  · cases taken

theorem overflows_of_filled
    {capacity : Option Nat}
    {bytes : Array UInt8}
    {refusal : Refusal Writer}
    (refused : filled capacity bytes = .error refusal) :
    holds capacity bytes.size = false := by
  unfold filled at refused
  split at refused
  · cases refused
  · exact Bool.eq_false_iff.mpr ‹_›

/-- A writer that is full takes no more. -/
theorem filled_append
    {capacity : Option Nat}
    {bytes : Array UInt8}
    (overflows : holds capacity bytes.size = false)
    (more : Array UInt8) :
    filled capacity (bytes ++ more) = filled capacity bytes := by
  cases capacity with
  | none =>
      cases overflows
  | some limit =>
      have beyond : limit < bytes.size := by
        simpa [holds] using overflows
      have sameStart : (bytes ++ more).take limit = bytes.take limit := by
        apply Array.toList_inj.mp
        simp [Nat.sub_eq_zero_of_le (Nat.le_of_lt beyond)]
      have overflowsToo : holds (some limit) (bytes ++ more).size = false := by
        simp [holds]
        omega
      simp only [filled, overflows, overflowsToo, Bool.false_eq_true, if_false,
        Option.getD_some, sameStart]

/-- The bytes of lines of text, each with its end. -/
def linesBytes (lines : List String) : Array UInt8 :=
  lines.foldr (fun line rest => lineBytes line ++ rest) #[]

theorem linesBytes_append
    (first second : List String) :
    linesBytes (first ++ second) = linesBytes first ++ linesBytes second := by
  induction first with
  | nil =>
      exact Array.empty_append.symm
  | cons line rest inductionHypothesis =>
      simp only [linesBytes, List.cons_append, List.foldr_cons] at inductionHypothesis ⊢
      rw [inductionHypothesis, Array.append_assoc]

/-- Lines that are written one after the other fill a writer like all of them at once. -/
theorem writeLines_eq_filled
    {capacity : Option Nat}
    {written : Array UInt8}
    (fits : holds capacity written.size = true)
    (lines : List String) :
    writeLines { capacity, written } lines =
      filled capacity (written ++ linesBytes lines) := by
  induction lines generalizing written with
  | nil =>
      have nothing : written ++ linesBytes [] = written := Array.append_empty
      rw [nothing, filled, if_pos fits]
      rfl
  | cons line rest inductionHypothesis =>
      have whole :
          written ++ linesBytes (line :: rest) =
            written ++ lineBytes line ++ linesBytes rest :=
        (Array.append_assoc ..).symm
      rw [whole]
      simp only [writeLines, List.foldlM_cons, write_eq_filled fits]
      cases enough : holds capacity (written ++ lineBytes line).size with
      | true =>
          rw [filled, if_pos enough]
          exact inductionHypothesis enough
      | false =>
          rw [filled_append enough, filled, enough]
          rfl

end Writer

/-- The bytes that deliveries are shown as, one after the other. -/
def Console.transcript
    (options : ConsoleOptions)
    (deliveries : List Delivery) :
    Array UInt8 :=
  Writer.linesBytes (deliveries.flatMap (deliveryLines options))

namespace Compilation

/-- Deliveries to a console fill its writer like the whole transcript at once. -/
theorem carryOut_console
    (options : ConsoleOptions)
    {capacity : Option Nat}
    {written : Array UInt8}
    (fits : Writer.holds capacity written.size = true)
    (steps : List ScriptStep)
    (journal : Log.Journal) :
    (carryOut options.sink steps { capacity, written } journal).1 =
      Writer.filled capacity
        (written ++
          Console.transcript options (steps.filterMap ScriptStep.delivery?)) := by
  induction steps generalizing written journal with
  | nil =>
      have nothing : written ++ Console.transcript options [] = written := Array.append_empty
      rw [List.filterMap_nil, nothing, Writer.filled, if_pos fits]
      rfl
  | cons step rest inductionHypothesis =>
      cases step with
      | log event =>
          exact inductionHypothesis fits (journal.record event)
      | deliver delivery =>
          have shown :
              Console.transcript options
                  ((.deliver delivery :: rest).filterMap ScriptStep.delivery?) =
                Writer.linesBytes (Console.deliveryLines options delivery) ++
                  Console.transcript options (rest.filterMap ScriptStep.delivery?) :=
            Writer.linesBytes_append ..
          have accepts :
              options.sink.accept { capacity, written } delivery =
                Writer.filled capacity
                  (written ++
                    Writer.linesBytes (Console.deliveryLines options delivery)) :=
            Writer.writeLines_eq_filled fits _
          rw [shown, ← Array.append_assoc]
          simp only [carryOut, accepts]
          cases enough :
              Writer.holds capacity
                (written ++
                  Writer.linesBytes (Console.deliveryLines options delivery)).size with
          | true =>
              rw [Writer.filled, if_pos enough]
              exact inductionHypothesis enough journal
          | false =>
              rw [Writer.filled_append enough, Writer.filled, enough]
              rfl

theorem carryOut_console_empty
    (options : ConsoleOptions)
    (capacity : Option Nat)
    (steps : List ScriptStep)
    (journal : Log.Journal) :
    (carryOut options.sink steps (Writer.empty capacity) journal).1 =
      Writer.filled capacity
        (Console.transcript options (steps.filterMap ScriptStep.delivery?)) := by
  have room : Writer.holds capacity (#[] : Array UInt8).size = true := by
    cases capacity <;> simp [Writer.holds]
  have filled := carryOut_console options room steps journal
  rw [Array.empty_append] at filled
  exact filled

/-- A console refuses the delivery with which the text becomes too long. -/
theorem size_of_refused
    {options : ConsoleOptions}
    {capacity : Nat}
    {before : List ScriptStep}
    {last : Delivery}
    {middle : Writer}
    {refusal : Refusal Writer}
    {journal reached : Log.Journal}
    (done :
      carryOut options.sink before (Writer.empty (some capacity)) journal =
        (.ok middle, reached))
    (refused : options.sink.accept middle last = .error refusal) :
    (Console.transcript options (before.filterMap ScriptStep.delivery?)).size ≤ capacity ∧
      capacity <
        (Console.transcript options
          (before.filterMap ScriptStep.delivery? ++ [last])).size := by
  have taken :=
    carryOut_console_empty options (some capacity) before journal
  have refusedThen :=
    carryOut_console_empty options (some capacity) (before ++ [.deliver last]) journal
  rw [done] at taken
  rw [carryOut_refused done refused, List.filterMap_append] at refusedThen
  constructor
  · simpa [Writer.holds] using Writer.holds_of_filled taken.symm
  · simpa [Writer.holds, ScriptStep.delivery?] using
      Writer.overflows_of_filled refusedThen.symm

/-! Runs into a limited writer. -/

/--
A run into a writer that is too small breaks off at a delivery: what was delivered
before it fits, and with it the text is too long.  The writer holds the beginning
of the text, the refused delivery is the last that the sink is handed, and the
journal holds the events of the steps before it.
-/
structure BreaksOffAt
    (options : ConsoleOptions)
    (preferences : Preferences)
    (unit : LoadedUnit)
    (capacity : Nat)
    (journal : Log.Journal)
    (text : Array UInt8)
    (before : List ScriptStep)
    (last : Delivery)
    (after : List ScriptStep) :
    Prop where
  steps :
    (plan preferences unit).steps =
      before ++
        .deliver last :: (after ++ [.log (plan preferences unit).result.summary])
  fits :
    (Console.transcript options (before.filterMap ScriptStep.delivery?)).size ≤ capacity
  overflows :
    capacity <
      (Console.transcript options
        (before.filterMap ScriptStep.delivery? ++ [last])).size
  refused :
    run preferences unit options.sink (Writer.empty (some capacity)) journal =
      (.error
        { reason := Writer.fullReason
          sink :=
            { capacity := some capacity
              written := text.take capacity } },
        { journal with
          unit := none
          events :=
            journal.events ++
              ((before.filterMap ScriptStep.event?).map
                (journal.setUnit unit.name).tag).toArray })
  handed :
    (run preferences unit options.sink.noting (Writer.empty (some capacity), []) journal).1 =
      .error
        { reason := Writer.fullReason
          sink :=
            ({ capacity := some capacity, written := text.take capacity },
              before.filterMap ScriptStep.delivery? ++ [last]) }
  unsummed :
    ∀ event ∈ before.filterMap ScriptStep.event?,
      isSummary event = true → event ∈ unit.events

/-- What a run shows on a console. -/
def shownText
    (options : ConsoleOptions)
    (preferences : Preferences)
    (unit : LoadedUnit) :
    Array UInt8 :=
  Console.transcript options (plan preferences unit).deliveries

/-- A run whose text has room in the writer ends like one into memory. -/
theorem run_of_room
    (options : ConsoleOptions)
    (preferences : Preferences)
    (unit : LoadedUnit)
    (capacity : Option Nat)
    (journal : Log.Journal)
    (room : Writer.holds capacity (shownText options preferences unit).size = true) :
    run preferences unit options.sink (Writer.empty capacity) journal =
      (.ok
        { report := (plan preferences unit).result
          sink := { capacity, written := shownText options preferences unit } },
        (run preferences unit MemorySink.sink MemorySink.empty journal).2) := by
  have filled :
      Writer.filled capacity (shownText options preferences unit) =
        .ok { capacity, written := shownText options preferences unit } :=
    if_pos room
  have shown :=
    carryOut_of_ok
      ((carryOut_console_empty options capacity (plan preferences unit).steps
        (journal.setUnit unit.name)).trans filled)
  have kept :=
    carryOut_of_ok
      (carryOut_memory (plan preferences unit).steps MemorySink.empty
        (journal.setUnit unit.name))
  rw [run_of_carryOut shown, run_of_carryOut kept]
  rfl

/-- A run whose text is too long for the writer breaks off. -/
theorem exists_breaksOffAt
    (options : ConsoleOptions)
    (preferences : Preferences)
    (unit : LoadedUnit)
    (capacity : Nat)
    (journal : Log.Journal)
    (tooLong : capacity < (shownText options preferences unit).size) :
    ∃ before last after,
      BreaksOffAt options preferences unit capacity journal
        (shownText options preferences unit) before last after := by
  have overflows :
      Writer.holds (some capacity) (shownText options preferences unit).size = false := by
    simpa [Writer.holds] using tooLong
  have filled :
      Writer.filled (some capacity) (shownText options preferences unit) =
        .error
          { reason := Writer.fullReason
            sink :=
              { capacity := some capacity
                written := (shownText options preferences unit).take capacity } } := by
    rw [Writer.filled, overflows]
    rfl
  have written :=
    (carryOut_console_empty options (some capacity) (plan preferences unit).steps
      (journal.setUnit unit.name)).trans filled
  obtain ⟨before, last, after, middle, steps, done, refused, unsummed⟩ :=
    exists_refused_delivery written
  obtain ⟨fits, overflows⟩ := size_of_refused done refused
  have brokenOff :=
    carryOut_refused done refused (after ++ [.log (plan preferences unit).result.summary])
  have noted :=
    carryOut_noting_refused done refused
      (after ++ [.log (plan preferences unit).result.summary])
  rw [← steps] at brokenOff noted
  refine
    ⟨before, last, after, { steps, fits, overflows, refused := ?_, handed := ?_, unsummed }⟩
  · rw [run_of_carryOut brokenOff, Log.Journal.foldl_record]
    rfl
  · exact congrArg Prod.fst (run_of_carryOut noted)

/--
A run to a console shows what a run without a limit shows, as far as the writer
has room.  If it has room for all of it, the run ends with the report and the
journal of a run into memory; if not, it breaks off.  No unit stays set.
-/
theorem run_to_limited_writer
    (options : ConsoleOptions)
    (preferences : Preferences)
    (unit : LoadedUnit)
    (capacity : Nat)
    (journal : Log.Journal) :
    ∃ report memory text,
      (run preferences unit MemorySink.sink MemorySink.empty journal).1 =
        .ok { report, sink := memory } ∧
      (run preferences unit options.sink (Writer.empty none) journal).1 =
        .ok { report, sink := { capacity := none, written := text } } ∧
      (text.size ≤ capacity →
        run preferences unit options.sink (Writer.empty (some capacity)) journal =
          (.ok { report, sink := { capacity := some capacity, written := text } },
            (run preferences unit MemorySink.sink MemorySink.empty journal).2)) ∧
      (capacity < text.size →
        ∃ before last after,
          BreaksOffAt options preferences unit capacity journal text before last after) ∧
      (run preferences unit options.sink (Writer.empty (some capacity)) journal).2.unit =
        none := by
  refine
    ⟨(plan preferences unit).result, _, shownText options preferences unit,
      run_memory preferences unit MemorySink.empty journal, ?_, ?_, ?_, rfl⟩
  · rw [run_of_room options preferences unit none journal rfl]
  · intro enough
    apply run_of_room
    simpa [Writer.holds] using enough
  · exact exists_breaksOffAt options preferences unit capacity journal

/-- The limit may cut a character in two: here it does, in the lexeme that is not known. -/
theorem run_to_limited_writer_of_cut_character :
    ∃ text before last after,
      (run (Environment.empty.preferences.gate true) (LoadedUnit.ofText "unit" ['é'])
          (ConsoleOptions.sink { showTokens := false, showParseTrees := false })
          (Writer.empty none) (Log.Journal.empty true)).1.toOption.map
        (fun outcome => outcome.sink.written) = some text ∧
      text.size = 61 ∧
      text.toList.drop 57 = [0xC3, 0xA9, 0x27, 0x0A] ∧
      BreaksOffAt { showTokens := false, showParseTrees := false }
        (Environment.empty.preferences.gate true) (LoadedUnit.ofText "unit" ['é']) 58
        (Log.Journal.empty true) text before last after := by
  obtain ⟨report, memory, text, _, unlimited, _, tooSmall, _⟩ :=
    run_to_limited_writer { showTokens := false, showParseTrees := false }
      (Environment.empty.preferences.gate true) (LoadedUnit.ofText "unit" ['é']) 58
      (Log.Journal.empty true)
  have isText :
      text =
        shownText { showTokens := false, showParseTrees := false }
          (Environment.empty.preferences.gate true) (LoadedUnit.ofText "unit" ['é']) := by
    rw [run_of_room _ _ _ none _ rfl] at unlimited
    cases unlimited
    rfl
  have size : text.size = 61 := by
    rw [isText]
    decide +kernel
  have ending : text.toList.drop 57 = [0xC3, 0xA9, 0x27, 0x0A] := by
    rw [isText]
    decide +kernel
  obtain ⟨before, last, after, breaksOff⟩ := tooSmall (by omega)
  refine ⟨text, before, last, after, ?_, size, ending, breaksOff⟩
  rw [unlimited]
  rfl

end Compilation

end Smsl
