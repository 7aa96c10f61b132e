import Mathlib.Data.List.Induction
import Smsl.Semantics.Walk

namespace Smsl

/-!
# Tables in step with their indexes

A table of states holds its records in a list and finds them through an index of
positions; a set of references holds its names in a list and knows them again
through the names it has seen.  Every operation changes both sides by itself.
This module says that they stay in step along every sequence of operations, and
what the operations then do to the records.
-/

/-- One more name counts unless it is among those before it. -/
theorem eraseDups_append_name
    (names : List String)
    (name : String) :
    (names ++ [name]).eraseDups =
      if name ∈ names then names.eraseDups else names.eraseDups ++ [name] := by
  rw [List.eraseDups_append]
  by_cases known : name ∈ names
  · simp [List.removeAll, known]
  · simp [List.removeAll, known, List.eraseDups_cons]

namespace StateTable

/-- The names of the records, in order. -/
def names (table : StateTable) : List String :=
  table.records.map StateRecord.name

/-- The index has a name at a position exactly if the record there has this name. -/
def InStep (table : StateTable) : Prop :=
  ∀ (name : String) (position : Nat),
    table.position? name = some position ↔ table.names[position]? = some name

/-- The table with one more record, and its name in the index. -/
def withRecord
    (table : StateTable)
    (record : StateRecord) :
    StateTable where
  records := table.records ++ [record]
  index := (record.name, table.records.length) :: table.index

/-- A record as it is declared. -/
def declaredRecord
    (name : String)
    (line : Nat) :
    StateRecord where
  name := name
  declarationLine := line
  hasContent := false

/-- The record, with content if it is among the chosen ones. -/
def fill
    (chosen : StateRecord → Bool)
    (record : StateRecord) :
    StateRecord :=
  if chosen record then { record with hasContent := true } else record

@[simp] theorem name_fill
    (chosen : StateRecord → Bool)
    (record : StateRecord) :
    (fill chosen record).name = record.name := by
  unfold fill
  split <;> rfl

@[simp] theorem declarationLine_fill
    (chosen : StateRecord → Bool)
    (record : StateRecord) :
    (fill chosen record).declarationLine = record.declarationLine := by
  unfold fill
  split <;> rfl

theorem hasContent_fill
    (chosen : StateRecord → Bool)
    {record : StateRecord}
    (filled : record.hasContent = true) :
    (fill chosen record).hasContent = true := by
  unfold fill
  split
  · rfl
  · exact filled

/-! What a table in step answers. -/

section InStep

variable {table : StateTable}

theorem InStep.contains_iff
    (inStep : InStep table)
    (name : String) :
    table.contains name = true ↔ name ∈ table.names := by
  simp only [contains, Option.isSome_iff_exists, List.mem_iff_getElem?]
  exact exists_congr (inStep name)

theorem InStep.contains_eq_any
    (inStep : InStep table)
    (name : String) :
    table.contains name = table.records.any fun record => record.name == name := by
  apply Bool.eq_iff_iff.mpr
  rw [inStep.contains_iff]
  simp [names]

/-- A position in the index is one of the records. -/
theorem InStep.position_lt
    (inStep : InStep table)
    {name : String}
    {position : Nat}
    (found : table.position? name = some position) :
    position < table.records.length := by
  have isNamed := (inStep name position).mp found
  obtain ⟨bound, _⟩ := List.getElem?_eq_some_iff.mp isNamed
  simpa [names] using bound

theorem InStep.nodup_names (inStep : InStep table) :
    table.names.Nodup := by
  apply List.pairwise_iff_getElem.mpr
  intro first second isFirst isSecond before same
  have atFirst : table.position? table.names[first] = some first :=
    (inStep _ _).mpr (List.getElem?_eq_getElem isFirst)
  have atSecond : table.position? table.names[first] = some second := by
    apply (inStep _ _).mpr
    rw [List.getElem?_eq_getElem isSecond, ← same]
  have samePosition : first = second :=
    Option.some.inj (atFirst.symm.trans atSecond)
  omega

/-- Looking a name up finds the record of that name. -/
theorem InStep.get?_eq_some_iff
    (inStep : InStep table)
    (name : String)
    (record : StateRecord) :
    table.get? name = some record ↔ record ∈ table.records ∧ record.name = name := by
  simp only [get?, Option.bind_eq_bind, Option.bind_eq_some_iff]
  constructor
  · rintro ⟨position, found, isRecord⟩
    have isNamed := (inStep name position).mp found
    simp only [names, List.getElem?_map, isRecord, Option.map_some, Option.some.injEq] at isNamed
    exact ⟨List.mem_of_getElem? isRecord, isNamed⟩
  · rintro ⟨member, rfl⟩
    obtain ⟨position, isRecord⟩ := List.mem_iff_getElem?.mp member
    refine ⟨position, (inStep _ _).mpr ?_, isRecord⟩
    simp [names, isRecord]

end InStep

/-! One operation at a time. -/

theorem declare_of_known
    {table : StateTable}
    {name : String}
    (known : table.contains name = true)
    (line : Nat) :
    table.declare name line = .error (.duplicateState line name) := by
  simp [declare, known]

theorem declare_of_new
    {table : StateTable}
    {name : String}
    (isNew : table.contains name = false)
    (line : Nat) :
    table.declare name line = .ok (table.withRecord (declaredRecord name line)) := by
  simp [declare, isNew, withRecord, declaredRecord]

theorem names_withRecord
    (table : StateTable)
    (record : StateRecord) :
    (table.withRecord record).names = table.names ++ [record.name] := by
  simp [names, withRecord]

theorem inStep_empty : InStep empty := by
  intro name position
  simp [empty, position?, names]

/-- A record under a new name keeps the table in step. -/
theorem InStep.withRecord
    {table : StateTable}
    (inStep : InStep table)
    {record : StateRecord}
    (isNew : table.contains record.name = false) :
    InStep (table.withRecord record) := by
  have notNamed : record.name ∉ table.names := by
    rw [← inStep.contains_iff, isNew]
    exact Bool.false_ne_true
  have sameLength : table.names.length = table.records.length := by
    simp [names]
  intro name position
  rw [names_withRecord, List.getElem?_append]
  by_cases same : name = record.name
  · subst same
    have atEnd :
        (table.withRecord record).position? record.name = some table.records.length := by
      simp [position?, StateTable.withRecord]
    rw [atEnd, Option.some.injEq]
    split
    case isTrue inside =>
        -- No earlier record has the new name.
        refine ⟨fun isEnd => absurd inside (by omega), fun isNamed => ?_⟩
        exact absurd (List.mem_of_getElem? isNamed) notNamed
    case isFalse outside =>
        rw [List.getElem?_singleton]
        grind
  · have elsewhere :
        (table.withRecord record).position? name = table.position? name := by
      have different : (name == record.name) = false := beq_false_of_ne same
      simp [position?, StateTable.withRecord, List.lookup_cons, different]
    rw [elsewhere, inStep name position]
    split
    case isTrue inside =>
        rfl
    case isFalse outside =>
        rw [List.getElem?_singleton, List.getElem?_eq_none (by omega)]
        grind

/-- Giving content to some records keeps a table in step. -/
theorem InStep.fill
    {table next : StateTable}
    (inStep : InStep table)
    {chosen : StateRecord → Bool}
    (sameIndex : next.index = table.index)
    (filled : next.records = table.records.map (fill chosen)) :
    InStep next := by
  have sameNames : next.names = table.names := by
    simp [names, filled, Function.comp_def]
  intro name position
  rw [position?, sameIndex, sameNames]
  exact inStep name position

theorem index_markContent
    (table : StateTable)
    (name : String) :
    (table.markContent name).index = table.index := by
  unfold markContent
  split <;> rfl

/-- Marking a name gives content to the record of that name, and to no other. -/
theorem InStep.records_markContent
    {table : StateTable}
    (inStep : InStep table)
    (name : String) :
    (table.markContent name).records =
      table.records.map (StateTable.fill fun record => record.name == name) := by
  apply List.ext_getElem?
  intro position
  have isNamed :
      ∀ record, table.records[position]? = some record →
        (table.position? name = some position ↔ record.name = name) := by
    intro record isRecord
    rw [inStep name position]
    simp [names, isRecord]
  unfold markContent
  split
  case h_1 place found =>
      rw [List.getElem?_modify, List.getElem?_map]
      cases isRecord : table.records[position]? with
      | none =>
          rfl
      | some record =>
          have here := isNamed record isRecord
          rw [found, Option.some.injEq] at here
          simp [StateTable.fill, here]
  case h_2 missing =>
      rw [List.getElem?_map]
      cases isRecord : table.records[position]? with
      | none =>
          rfl
      | some record =>
          have here := isNamed record isRecord
          rw [missing] at here
          simp [StateTable.fill, ← here]

theorem records_markAllContent (table : StateTable) :
    table.markAllContent.records = table.records.map (fill fun _ => true) := by
  simp [markAllContent, fill]

/-! Sequences of operations. -/

/-- The operations that change a table. -/
inductive Operation where
  | declare (name : String) (line : Nat)
  | markContent (name : String)
  | markAllContent
  deriving Repr, DecidableEq

/-- The name and the line of a declaration. -/
def Operation.declaration? : Operation → Option (String × Nat)
  | .declare name line => some (name, line)
  | .markContent _ => none
  | .markAllContent => none

/-- The declarations among operations, in order, whether refused or not. -/
def declarations (operations : List Operation) : List (String × Nat) :=
  operations.filterMap Operation.declaration?

/-- The table after an operation; a refused declaration leaves it as it was. -/
def perform (table : StateTable) : Operation → StateTable
  | .declare name line =>
      match table.declare name line with
      | .ok next => next
      | .error _ => table
  | .markContent name =>
      table.markContent name
  | .markAllContent =>
      table.markAllContent

/-- The table after some operations, one after the other. -/
def performAll
    (table : StateTable)
    (operations : List Operation) :
    StateTable :=
  operations.foldl perform table

/-- All that an operation can do to a table in step. -/
inductive Performs
    (table : StateTable) :
    Operation → StateTable → Prop where
  | refuses
      {name : String}
      (line : Nat)
      (known : table.contains name = true) :
      Performs table (.declare name line) table
  | adds
      {name : String}
      (line : Nat)
      (isNew : table.contains name = false) :
      Performs table (.declare name line) (table.withRecord (declaredRecord name line))
  | fills
      {operation : Operation}
      {next : StateTable}
      (chosen : StateRecord → Bool)
      (declaresNothing : operation.declaration? = none)
      (sameIndex : next.index = table.index)
      (filled : next.records = table.records.map (fill chosen)) :
      Performs table operation next

theorem InStep.performs
    {table : StateTable}
    (inStep : InStep table)
    (operation : Operation) :
    Performs table operation (table.perform operation) := by
  cases operation with
  | declare name line =>
      cases known : table.contains name with
      | true =>
          rw [perform, declare_of_known known]
          exact .refuses line known
      | false =>
          rw [perform, declare_of_new known]
          exact .adds line known
  | markContent name =>
      exact .fills _ rfl (index_markContent table name) (inStep.records_markContent name)
  | markAllContent =>
      exact .fills _ rfl rfl (records_markAllContent table)

theorem InStep.perform
    {table : StateTable}
    (inStep : InStep table)
    (operation : Operation) :
    InStep (table.perform operation) := by
  have performed := inStep.performs operation
  generalize table.perform operation = next at performed ⊢
  cases performed with
  | refuses line known =>
      exact inStep
  | adds line isNew =>
      exact inStep.withRecord isNew
  | fills chosen declaresNothing sameIndex filled =>
      exact inStep.fill sameIndex filled

theorem InStep.performAll
    {table : StateTable}
    (inStep : InStep table)
    (operations : List Operation) :
    InStep (table.performAll operations) := by
  induction operations generalizing table with
  | nil =>
      exact inStep
  | cons operation rest inductionHypothesis =>
      exact inductionHypothesis (inStep.perform operation)

/-- The records are the first declarations of their names, in order. -/
structure Tracks
    (operations : List Operation)
    (table : StateTable) :
    Prop where
  names :
    table.names = ((declarations operations).map Prod.fst).eraseDups
  lines :
    ∀ record ∈ table.records,
      (declarations operations).lookup record.name = some record.declarationLine

theorem tracks_empty : Tracks [] empty :=
  ⟨rfl, by simp [empty]⟩

theorem Tracks.contains_iff
    {operations : List Operation}
    {table : StateTable}
    (tracks : Tracks operations table)
    (inStep : InStep table)
    (name : String) :
    table.contains name = true ↔ name ∈ (declarations operations).map Prod.fst := by
  rw [inStep.contains_iff, tracks.names, List.mem_eraseDups]

theorem declarations_append
    (operations further : List Operation) :
    declarations (operations ++ further) = declarations operations ++ declarations further :=
  List.filterMap_append

theorem map_fst_declarations_declare
    (operations : List Operation)
    (name : String)
    (line : Nat) :
    (declarations (operations ++ [.declare name line])).map Prod.fst =
      (declarations operations).map Prod.fst ++ [name] := by
  rw [declarations_append, List.map_append]
  rfl

/-- One more operation is tracked too. -/
theorem Tracks.perform
    {operations : List Operation}
    {table : StateTable}
    (tracks : Tracks operations table)
    (inStep : InStep table)
    (operation : Operation) :
    Tracks (operations ++ [operation]) (table.perform operation) := by
  have performed := inStep.performs operation
  generalize table.perform operation = next at performed ⊢
  have keepsLine :
      ∀ record ∈ table.records,
        (declarations (operations ++ [operation])).lookup record.name =
          some record.declarationLine := by
    intro record member
    rw [declarations_append, List.lookup_append, tracks.lines record member]
    rfl
  cases performed with
  | @refuses name line known =>
      have declared := (tracks.contains_iff inStep name).mp known
      refine ⟨?_, keepsLine⟩
      rw [map_fst_declarations_declare, eraseDups_append_name, if_pos declared, tracks.names]
  | @adds name line isNew =>
      have undeclared : name ∉ (declarations operations).map Prod.fst := by
        rw [← tracks.contains_iff inStep, isNew]
        exact Bool.false_ne_true
      refine ⟨?_, ?_⟩
      · rw [names_withRecord, map_fst_declarations_declare, eraseDups_append_name,
          if_neg undeclared, tracks.names]
        rfl
      · intro record member
        rcases List.mem_append.mp member with earlier | isLast
        · exact keepsLine record earlier
        · obtain rfl := List.mem_singleton.mp isLast
          have missing : (declarations operations).lookup name = none := by
            apply List.lookup_eq_none_iff.mpr
            intro declaration isDeclaration
            apply bne_iff_ne.mpr
            rintro rfl
            exact undeclared (List.mem_map_of_mem isDeclaration)
          rw [declarations_append, List.lookup_append, declaredRecord, missing]
          simp [declarations, Operation.declaration?]
  | fills chosen declaresNothing sameIndex filled =>
      have sameDeclarations :
          declarations (operations ++ [operation]) = declarations operations := by
        simp [declarations, declaresNothing]
      refine ⟨?_, ?_⟩
      · rw [sameDeclarations, ← tracks.names]
        simp [StateTable.names, filled, Function.comp_def]
      · intro record member
        rw [filled] at member
        obtain ⟨earlier, isEarlier, rfl⟩ := List.mem_map.mp member
        simpa using keepsLine earlier isEarlier

theorem tracks_performAll (operations : List Operation) :
    Tracks operations (empty.performAll operations) := by
  induction operations using List.reverseRecOn with
  | nil =>
      exact tracks_empty
  | append_singleton earlier operation inductionHypothesis =>
      rw [performAll, List.foldl_append]
      exact inductionHypothesis.perform (inStep_empty.performAll earlier) operation

/-- What a record may become: it keeps its name and its line, and gains content at most. -/
structure Keeps
    (record later : StateRecord) :
    Prop where
  name :
    later.name = record.name
  declarationLine :
    later.declarationLine = record.declarationLine
  content :
    record.hasContent = true → later.hasContent = true

theorem InStep.keeps_perform
    {table : StateTable}
    (inStep : InStep table)
    (operation : Operation)
    {position : Nat}
    {record : StateRecord}
    (isRecord : table.records[position]? = some record) :
    ∃ later,
      (table.perform operation).records[position]? = some later ∧ Keeps record later := by
  have performed := inStep.performs operation
  generalize table.perform operation = next at performed ⊢
  cases performed with
  | refuses line known =>
      exact ⟨record, isRecord, rfl, rfl, id⟩
  | adds line isNew =>
      refine ⟨record, ?_, rfl, rfl, id⟩
      obtain ⟨bound, _⟩ := List.getElem?_eq_some_iff.mp isRecord
      rw [StateTable.withRecord, List.getElem?_append_left bound, isRecord]
  | fills chosen declaresNothing sameIndex filled =>
      refine ⟨StateTable.fill chosen record, ?_, by simp, by simp, hasContent_fill chosen⟩
      rw [filled, List.getElem?_map, isRecord, Option.map_some]

/-- Along further operations every record stays at its position and keeps what it has. -/
theorem InStep.keeps_performAll
    {table : StateTable}
    (inStep : InStep table)
    (operations : List Operation)
    {position : Nat}
    {record : StateRecord}
    (isRecord : table.records[position]? = some record) :
    ∃ later,
      (table.performAll operations).records[position]? = some later ∧ Keeps record later := by
  induction operations generalizing table record with
  | nil =>
      exact ⟨record, isRecord, rfl, rfl, id⟩
  | cons operation rest inductionHypothesis =>
      obtain ⟨next, isNext, kept⟩ := inStep.keeps_perform operation isRecord
      obtain ⟨later, isLater, keptLater⟩ :=
        inductionHypothesis (inStep.perform operation) isNext
      exact
        ⟨later, isLater, keptLater.name.trans kept.name,
          keptLater.declarationLine.trans kept.declarationLine,
          fun filled => keptLater.content (kept.content filled)⟩

end StateTable

namespace ReferenceSet

/-- The names seen are those in the list. -/
def InStep (references : ReferenceSet) : Prop :=
  ∀ name, name ∈ references.seen ↔ name ∈ references.names

/-- The set after inserting some names, one after the other. -/
def ofNames (names : List String) : ReferenceSet :=
  names.foldl insert empty

theorem inStep_empty : InStep empty := by
  intro name
  rfl

theorem InStep.names_insert
    {references : ReferenceSet}
    (inStep : InStep references)
    (name : String) :
    (references.insert name).names =
      if name ∈ references.names then references.names else references.names ++ [name] := by
  simp only [ReferenceSet.insert, List.contains_iff_mem, inStep name]
  split <;> rfl

theorem InStep.insert
    {references : ReferenceSet}
    (inStep : InStep references)
    (name : String) :
    InStep (references.insert name) := by
  unfold ReferenceSet.insert
  split
  · exact inStep
  · intro other
    rw [List.mem_cons, inStep other, List.mem_append, List.mem_singleton, or_comm]

theorem inStep_ofNames (names : List String) :
    InStep (ofNames names) := by
  induction names using List.reverseRecOn with
  | nil =>
      exact inStep_empty
  | append_singleton earlier name inductionHypothesis =>
      rw [ofNames, List.foldl_append]
      exact inductionHypothesis.insert name

/-- The set lists the inserted names in the order of their first insertion. -/
theorem names_ofNames (names : List String) :
    (ofNames names).names = names.eraseDups := by
  induction names using List.reverseRecOn with
  | nil =>
      rfl
  | append_singleton earlier name inductionHypothesis =>
      have inserted : ofNames (earlier ++ [name]) = (ofNames earlier).insert name := by
        rw [ofNames, List.foldl_append]
        rfl
      rw [inserted, (inStep_ofNames earlier).names_insert, inductionHypothesis,
        eraseDups_append_name]
      simp only [List.mem_eraseDups]

end ReferenceSet

namespace Walk

/-- The table and the references of a walk are in step. -/
structure InStep (walk : Walk) : Prop where
  table :
    walk.table.InStep
  references :
    walk.references.InStep

theorem inStep_empty : InStep empty :=
  ⟨StateTable.inStep_empty, ReferenceSet.inStep_empty⟩

/-- Taking in what a line says keeps a walk in step. -/
theorem InStep.step
    {walk : Walk}
    (inStep : InStep walk)
    (policy : AttributionPolicy)
    (line : Nat)
    (fact : StateFact) :
    InStep (walk.step policy line fact) := by
  cases fact with
  | declares name =>
      simp only [Walk.step, Walk.declare]
      cases known : walk.table.contains name with
      | true =>
          rw [StateTable.declare_of_known known]
          exact ⟨inStep.table, inStep.references⟩
      | false =>
          rw [StateTable.declare_of_new known]
          exact ⟨inStep.table.withRecord known, inStep.references⟩
  | refersTo target =>
      exact ⟨inStep.table, inStep.references.insert target⟩
  | badTransition =>
      exact ⟨inStep.table, inStep.references⟩
  | acts adjacent =>
      cases policy with
      | adjacentDeclaration =>
          cases adjacent with
          | none =>
              exact inStep
          | some name =>
              exact ⟨inStep.table.perform (.markContent name), inStep.references⟩
      | anyAction =>
          exact ⟨inStep.table.perform .markAllContent, inStep.references⟩

end Walk

namespace StateTable

/-- What the operations do to a table. -/
structure Responds (table : StateTable) : Prop where
  gets :
    ∀ name, table.contains name = true →
      ∃ record, table.get? name = some record ∧ record.name = name
  refuses :
    ∀ name line, table.contains name = true →
      table.declare name line = .error (.duplicateState line name) ∧
        table.perform (.declare name line) = table
  adds :
    ∀ name line, table.contains name = false →
      table.declare name line = .ok (table.withRecord (declaredRecord name line))
  marks :
    ∀ name,
      (table.markContent name).index = table.index ∧
        (table.markContent name).records =
          table.records.map fun record =>
            if record.name = name then { record with hasContent := true } else record
  marksNothing :
    ∀ name, table.contains name = false → table.markContent name = table
  keeps :
    ∀ (operations : List Operation) (position : Nat) (record : StateRecord),
      table.records[position]? = some record →
      ∃ later,
        (table.performAll operations).records[position]? = some later ∧ Keeps record later

theorem InStep.responds
    {table : StateTable}
    (inStep : InStep table) :
    Responds table where
  gets name known := by
    obtain ⟨record, member, isNamed⟩ := List.mem_map.mp ((inStep.contains_iff name).mp known)
    exact ⟨record, (inStep.get?_eq_some_iff name record).mpr ⟨member, isNamed⟩, isNamed⟩
  refuses name line known := by
    refine ⟨declare_of_known known line, ?_⟩
    rw [StateTable.perform, declare_of_known known]
  adds name line isNew :=
    declare_of_new isNew line
  marks name := by
    refine ⟨index_markContent table name, ?_⟩
    simp [inStep.records_markContent, StateTable.fill]
  marksNothing name isNew := by
    have missing : table.position? name = none := by
      simpa [contains] using isNew
    rw [markContent, missing]
  keeps operations _ _ isRecord :=
    inStep.keeps_performAll operations isRecord

/-- What holds of a table after some operations on the empty one. -/
structure KeptInStep
    (operations : List Operation)
    (table : StateTable) :
    Prop where
  indexed :
    ∀ name, table.contains name = true ↔ name ∈ (declarations operations).map Prod.fst
  positions :
    InStep table
  inBounds :
    ∀ name position, table.position? name = some position → position < table.records.length
  distinct :
    table.names.Nodup
  tracks :
    Tracks operations table
  responds :
    Responds table

/--
After any operations on the empty table, and after any insertions into the empty
set, the two sides of each are in step: the index has exactly the declared names,
each at the position of its record, and the records are the first declarations in
their order; the references are the inserted names in the order of first insertion.
-/
theorem table_and_references_kept_in_step
    (operations : List Operation)
    (inserted : List String) :
    KeptInStep operations (empty.performAll operations) ∧
      (ReferenceSet.ofNames inserted).InStep ∧
        (ReferenceSet.ofNames inserted).names = inserted.eraseDups := by
  have inStep := inStep_empty.performAll operations
  have tracks := tracks_performAll operations
  refine ⟨?_, ReferenceSet.inStep_ofNames inserted, ReferenceSet.names_ofNames inserted⟩
  exact
    { indexed := tracks.contains_iff inStep
      positions := inStep
      inBounds := fun _ _ found => inStep.position_lt found
      distinct := inStep.nodup_names
      tracks := tracks
      responds := inStep.responds }

end StateTable

end Smsl
