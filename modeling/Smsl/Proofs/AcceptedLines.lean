import Mathlib.Data.List.Basic
import Smsl.Proofs.SignificantLines
import Smsl.Statement.Shape

namespace Smsl

/-!
# Accepted lines

What a line reads like when it has a shape: its kind and its fields or parts.  A
unit without rejected lines has a statement for every significant line.
-/

namespace StatementShape

/-- What a line with a shape reads like. -/
inductive Reads (text : Text) : StatementShape → Prop where
  | stateDeclaration
      (name : Text) :
      StatementKind.ofText text = .stateDeclaration →
      Text.fields text = [keywordField .state, name, ['\x7b']] →
      Reads text .stateDeclaration
  | transitionDeclaration
      (parts : TransitionParts)
      (name : Text) :
      StatementKind.ofText text = .transitionDeclaration →
      TransitionParts.ofText? text = some parts →
      Text.fields parts.header = [keywordField .transition, name] →
      Text.endsWithChar '\x7b' parts.last = true →
      Reads text .transitionDeclaration
  | action
      (field : Text) :
      StatementKind.ofText text = .action →
      Text.fields text = [keywordField .action, field] →
      Text.endsWithChar ';' field = true →
      Reads text .action
  | marker :
      StatementKind.ofText text = .marker →
      Reads text .marker
  | brace :
      StatementKind.ofText text = .brace →
      Reads text .brace

theorem reads_of_ofStateLine
    {text : Text}
    {shape : StatementShape}
    (isKind : StatementKind.ofText text = .stateDeclaration)
    (accepted : ofStateLine text = .ok shape) :
    Reads text shape := by
  unfold ofStateLine at accepted
  split at accepted
  · rename_i keyword name opening isFields
    split at accepted
    · rename_i isForm
      obtain ⟨rfl, rfl⟩ := isForm
      cases accepted
      exact .stateDeclaration name isKind isFields
    · cases accepted
  · cases accepted

theorem reads_of_ofTransitionLine
    {text : Text}
    {shape : StatementShape}
    (isKind : StatementKind.ofText text = .transitionDeclaration)
    (accepted : ofTransitionLine text = .ok shape) :
    Reads text shape := by
  unfold ofTransitionLine at accepted
  split at accepted
  · cases accepted
  · rename_i parts isParts
    split at accepted
    · rename_i keyword name isHeader
      split at accepted
      · rename_i isKeyword
        subst isKeyword
        split at accepted
        · rename_i closes
          cases accepted
          exact .transitionDeclaration parts name isKind isParts isHeader closes
        · cases accepted
      · cases accepted
    · cases accepted

theorem reads_of_ofActionLine
    {text : Text}
    {shape : StatementShape}
    (isKind : StatementKind.ofText text = .action)
    (accepted : ofActionLine text = .ok shape) :
    Reads text shape := by
  unfold ofActionLine at accepted
  split at accepted
  · rename_i keyword field isFields
    split at accepted
    · rename_i isForm
      obtain ⟨rfl, closes⟩ := isForm
      cases accepted
      exact .action field isKind isFields closes
    · cases accepted
  · cases accepted

/-- A line has the shape that it reads like. -/
theorem reads_of_ofText
    {text : Text}
    {shape : StatementShape}
    (accepted : ofText text = .ok shape) :
    Reads text shape := by
  unfold ofText at accepted
  split at accepted
  · rename_i isKind
    exact reads_of_ofStateLine isKind accepted
  · rename_i isKind
    exact reads_of_ofTransitionLine isKind accepted
  · rename_i isKind
    exact reads_of_ofActionLine isKind accepted
  · rename_i isKind
    cases accepted
    exact .marker isKind
  · rename_i isKind
    cases accepted
    exact .brace isKind
  · cases accepted

end StatementShape

namespace StatementCheck

/-- The statement of a line, if it has a shape. -/
def statement? (line : SourceLine) : Option Statement :=
  accepted? (judge line)

theorem statement?_eq_some_iff
    {line : SourceLine}
    {statement : Statement} :
    statement? line = some statement ↔
      StatementShape.ofText line.text = .ok statement.shape ∧
        statement.line = line.number := by
  cases verdict : StatementShape.ofText line.text with
  | error rejection =>
      simp [statement?, judge, verdict, accepted?]
  | ok shape =>
      obtain ⟨number, accepted⟩ := statement
      simp only [statement?, judge, verdict, accepted?, Option.some.injEq,
        Statement.mk.injEq, Except.ok.injEq]
      constructor
      · rintro ⟨rfl, rfl⟩
        exact ⟨rfl, rfl⟩
      · rintro ⟨rfl, rfl⟩
        exact ⟨rfl, rfl⟩

theorem statements_ofLines (lines : List Text) :
    (ofLines lines).statements = (SourceLine.significant lines).filterMap statement? := by
  simp only [ofLines, List.filterMap_map]
  rfl

/-- Nothing is rejected exactly when every significant line has a shape. -/
theorem diagnostics_eq_nil_iff
    {lines : List Text} :
    (ofLines lines).diagnostics = [] ↔
      ∀ line ∈ SourceLine.significant lines,
        ∃ shape, StatementShape.ofText line.text = .ok shape := by
  simp only [diagnostics, List.map_eq_nil_iff, ofLines, List.filterMap_map,
    List.filterMap_eq_nil_iff, Function.comp_apply]
  refine forall₂_congr ?_
  intro line _
  cases verdict : StatementShape.ofText line.text <;>
    simp [judge, verdict, rejected?]

end StatementCheck

end Smsl
