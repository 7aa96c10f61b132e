import Smsl.Proofs.LineVerdict

namespace Smsl

/-!
# Lines in another order

What a unit declares and what it refers to is checked once the whole unit has
been seen.  The order of its lines decides which declaration of a name is the
first and which action counts for which state; it decides neither which names
are declared or missing nor how often a name is declared again or a transition
has too few parts.
-/

namespace SourceLine

/-- The significant texts are those that remain of the raw lines. -/
theorem map_text_significant (lines : List Text) :
    (significant lines).map SourceLine.text =
      (lines.map sanitize).filter fun text => !text.isEmpty := by
  have ofPair :
      ∀ numbered : Text × Nat,
        (ofRaw? numbered.1 numbered.2).map SourceLine.text =
          Option.guard (fun text => !text.isEmpty) (sanitize numbered.1) := by
    rintro ⟨raw, number⟩
    by_cases empty : sanitize raw = []
    · simp [ofRaw?, empty, Option.guard]
    · simp [ofRaw?, empty, Option.guard]
  calc
    (significant lines).map SourceLine.text
      = (lines.zipIdx 1).filterMap fun numbered =>
          Option.guard (fun text => !text.isEmpty) (sanitize numbered.1) := by
        simp only [significant, List.map_filterMap, ofPair]
    _ = (((lines.zipIdx 1).map Prod.fst).map sanitize).filterMap
          (Option.guard fun text => !text.isEmpty) := by
        rw [List.map_map, List.filterMap_map]
        rfl
    _ = (lines.map sanitize).filter fun text => !text.isEmpty := by
        rw [List.zipIdx_map_fst, List.filterMap_eq_filter]

variable {lines others : List Text}

/-- The lines of a kind read the same in another order. -/
theorem map_text_ofKind_perm
    (reordered : lines.Perm others)
    (kind : StatementKind) :
    ((ofKind kind lines).map SourceLine.text).Perm
      ((ofKind kind others).map SourceLine.text) := by
  have ofTexts :
      ∀ raw : List Text,
        (ofKind kind raw).map SourceLine.text =
          ((raw.map sanitize).filter fun text => !text.isEmpty).filter
            fun text => StatementKind.ofText text = kind := by
    intro raw
    rw [← map_text_significant, List.filter_map]
    rfl
  rw [ofTexts, ofTexts]
  exact ((reordered.map sanitize).filter _).filter _

theorem declaredNames_perm (reordered : lines.Perm others) :
    (declaredNames lines).Perm (declaredNames others) := by
  have ofTexts :
      ∀ raw : List Text,
        declaredNames raw =
          ((ofKind .stateDeclaration raw).map SourceLine.text).filterMap fun text =>
            (Text.fields text)[1]?.map String.ofList := by
    intro raw
    simp only [declaredNames, declarations, List.map_filterMap, List.filterMap_map,
      Option.map_map]
    rfl
  rw [ofTexts, ofTexts]
  exact (map_text_ofKind_perm reordered _).filterMap _

theorem targets_perm (reordered : lines.Perm others) :
    (targets lines).Perm (targets others) := by
  have ofTexts :
      ∀ raw : List Text,
        targets raw =
          ((ofKind .transitionDeclaration raw).map SourceLine.text).filterMap fun text =>
            (TransitionParts.ofText? text).map fun parts => String.ofList parts.target := by
    intro raw
    rw [List.filterMap_map]
    rfl
  rw [ofTexts, ofTexts]
  exact (map_text_ofKind_perm reordered _).filterMap _

theorem length_shortTransitions_eq (reordered : lines.Perm others) :
    (shortTransitions lines).length = (shortTransitions others).length := by
  have ofTexts :
      ∀ raw : List Text,
        (shortTransitions raw).length =
          ((ofKind .transitionDeclaration raw).map SourceLine.text).countP fun text =>
            (TransitionParts.split text).length < 3 := by
    intro raw
    rw [shortTransitions, List.length_map, List.countP_map, List.countP_eq_length_filter]
    rfl
  rw [ofTexts, ofTexts]
  exact (map_text_ofKind_perm reordered _).countP_eq _

end SourceLine

/-- An error has a given form, on whichever line it was found. -/
def SemanticError.hasForm
    (form : Nat → SemanticError)
    (error : SemanticError) :
    Bool :=
  error.line?.any fun line => error = form line

namespace StateFacts

/-- The errors of one form are errors of lines. -/
theorem countP_hasForm_errors
    (policy : AttributionPolicy)
    (facts : StateFacts)
    (form : Nat → SemanticError) :
    (errors policy facts).countP (SemanticError.hasForm form) =
      (facts.filterMap (lineError? policy facts)).countP (SemanticError.hasForm form) := by
  have noLine :
      (facts.undefined.map SemanticError.undefinedStateReference).countP
        (SemanticError.hasForm form) = 0 := by
    rw [List.countP_eq_zero]
    intro error member
    obtain ⟨target, _, rfl⟩ := List.mem_map.mp member
    simp [SemanticError.hasForm, SemanticError.line?]
  rw [errors, List.countP_append, noLine, Nat.add_zero]

/-- A declaration of a name calls for a record or is a duplicate. -/
theorem count_declared_fact
    (policy : AttributionPolicy)
    (facts : StateFacts)
    (fact : Nat × StateFact)
    (name : String) :
    ((declaration? fact).toList.map Prod.snd).count name =
      ((record? policy facts fact).toList.map StateRecord.name).count name +
        (lineError? policy facts fact).toList.countP
          (SemanticError.hasForm (.duplicateState · name)) := by
  obtain ⟨line, fact⟩ := fact
  cases fact with
  | declares declared =>
      by_cases above : facts.declaresAbove line declared
      · simp [declaration?, record?, lineError?, above, SemanticError.hasForm,
          SemanticError.line?, List.count_singleton, List.countP_singleton]
      · by_cases content : facts.hasContent policy line declared
        · simp [declaration?, record?, lineError?, above, content]
        · simp [declaration?, record?, lineError?, above, content, SemanticError.hasForm,
            SemanticError.line?]
  | badTransition =>
      simp [declaration?, record?, lineError?, SemanticError.hasForm, SemanticError.line?]
  | refersTo _ | acts _ =>
      rfl

/-- The declarations of a name are its record and its duplicates. -/
theorem count_declared
    (policy : AttributionPolicy)
    (facts : StateFacts)
    (name : String) :
    ((facts.filterMap declaration?).map Prod.snd).count name =
      ((states policy facts).map StateRecord.name).count name +
        (errors policy facts).countP (SemanticError.hasForm (.duplicateState · name)) := by
  have counted :
      ∀ part : StateFacts,
        ((part.filterMap declaration?).map Prod.snd).count name =
          ((part.filterMap (record? policy facts)).map StateRecord.name).count name +
            (part.filterMap (lineError? policy facts)).countP
              (SemanticError.hasForm (.duplicateState · name)) := by
    intro part
    induction part with
    | nil =>
        rfl
    | cons fact rest inductionHypothesis =>
        have ofFact := count_declared_fact policy facts fact name
        simp only [List.filterMap_eq_flatMap_toList, List.flatMap_cons, List.map_append,
          List.count_append, List.countP_append] at inductionHypothesis ⊢
        omega
  rw [countP_hasForm_errors]
  exact counted facts

/-- Every transition without a target is an error of its own. -/
theorem countP_invalidTransitionFormat
    (policy : AttributionPolicy)
    (facts : StateFacts) :
    (errors policy facts).countP (SemanticError.hasForm .invalidTransitionFormat) =
      (facts.filterMap badLine?).length := by
  rw [countP_hasForm_errors, List.countP_filterMap, List.length_filterMap_eq_countP]
  refine List.countP_congr ?_
  rintro ⟨line, fact⟩ _
  cases fact with
  | declares name =>
      cases found : lineError? policy facts (line, .declares name) with
      | none =>
          simp [badLine?]
      | some error =>
          rcases lineError?_cases found with ⟨_, _, rfl | rfl⟩ | ⟨isBad, _⟩
          · simp [badLine?, SemanticError.hasForm, SemanticError.line?]
          · simp [badLine?, SemanticError.hasForm, SemanticError.line?]
          · cases isBad
  | badTransition =>
      simp [badLine?, lineError?, SemanticError.hasForm, SemanticError.line?]
  | refersTo _ | acts _ =>
      simp [badLine?, lineError?]

end StateFacts

namespace Analysis

/-- How many diagnostics tell of an error of one form, on whichever line. -/
def timesReported
    (analysis : Analysis)
    (form : Nat → SemanticError) :
    Nat :=
  analysis.diagnostics.countP fun diagnostic =>
    diagnostic.line.any fun line => diagnostic = (form line).toDiagnostic

/-- Two analyses tell the same of their states, but for order, lines and content. -/
structure AgreesButOrder
    (first second : Analysis) :
    Prop where
  names :
    (first.states.map StateRecord.name).Perm (second.states.map StateRecord.name)
  undefinedReferences :
    first.undefinedReferences.Perm second.undefinedReferences
  duplicates :
    ∀ name,
      first.timesReported (.duplicateState · name) =
        second.timesReported (.duplicateState · name)
  invalidTransitions :
    first.timesReported .invalidTransitionFormat =
      second.timesReported .invalidTransitionFormat

section ByLines

variable (policy : AttributionPolicy)
variable (lines : List Text)
variable (tokens : List Token)

theorem timesReported_ofUnit_lines (form : Nat → SemanticError) :
    (ofUnit policy .lines lines tokens).timesReported form =
      ((LineReading.ofTexts.facts lines).errors policy).countP
        (SemanticError.hasForm form) := by
  have sameForm :
      ∀ error : SemanticError,
        (error.toDiagnostic.line.any fun line =>
            decide (error.toDiagnostic = (form line).toDiagnostic)) =
          error.hasForm form := by
    intro error
    simp only [SemanticError.toDiagnostic_injective.eq_iff]
    rfl
  rw [timesReported, diagnostics_ofUnit_lines, List.countP_map]
  exact congrArg (List.countP · _) (funext sameForm)

/-- A name is declared as often as it has a record or is reported a duplicate. -/
theorem count_declaredNames (name : String) :
    (SourceLine.declaredNames lines).count name =
      ((ofUnit policy .lines lines tokens).states.map StateRecord.name).count name +
        (ofUnit policy .lines lines tokens).timesReported (.duplicateState · name) := by
  rw [timesReported_ofUnit_lines, states_ofUnit_lines, ← StateFacts.count_declared,
    LineReading.declarations_ofTexts]
  rfl

theorem timesReported_invalidTransitionFormat :
    (ofUnit policy .lines lines tokens).timesReported .invalidTransitionFormat =
      (SourceLine.shortTransitions lines).length := by
  rw [timesReported_ofUnit_lines, StateFacts.countP_invalidTransitionFormat,
    LineReading.badLines_ofTexts]

theorem nodup_names_ofUnit_lines :
    ((ofUnit policy .lines lines tokens).states.map StateRecord.name).Nodup := by
  rw [states_ofUnit_lines, List.Nodup, List.pairwise_map]
  exact StateFacts.states_pairwise policy (LineReading.facts_ordered _ lines)

theorem nodup_undefinedReferences_ofUnit_lines :
    (ofUnit policy .lines lines tokens).undefinedReferences.Nodup := by
  rw [undefinedReferences_ofUnit_lines]
  exact StateFacts.nodup_undefined _

theorem mem_names_ofUnit_lines {name : String} :
    name ∈ (ofUnit policy .lines lines tokens).states.map StateRecord.name ↔
      name ∈ SourceLine.declaredNames lines := by
  rw [names_ofUnit_lines, List.mem_eraseDups]

theorem mem_undefinedReferences_ofUnit_lines {target : String} :
    target ∈ (ofUnit policy .lines lines tokens).undefinedReferences ↔
      target ∈ SourceLine.targets lines ∧ target ∉ SourceLine.declaredNames lines := by
  rw [undefinedReferences_ofUnit_lines, LineReading.undefined_ofTexts, List.mem_filter,
    List.mem_eraseDups, decide_eq_true_eq]

end ByLines

/--
The order of the lines does not matter to which states are declared, which
targets are undefined, how often each name is declared again and how many
transitions have too few parts.
-/
theorem agreesButOrder_of_perm
    (policy : AttributionPolicy)
    (lines others : List Text)
    (tokens otherTokens : List Token)
    (reordered : lines.Perm others) :
    AgreesButOrder (ofUnit policy .lines lines tokens)
      (ofUnit policy .lines others otherTokens) := by
  have sameDeclared := SourceLine.declaredNames_perm reordered
  have sameTargets := SourceLine.targets_perm reordered
  have sameNames :
      ((ofUnit policy .lines lines tokens).states.map StateRecord.name).Perm
        ((ofUnit policy .lines others otherTokens).states.map StateRecord.name) := by
    refine (List.perm_ext_iff_of_nodup (nodup_names_ofUnit_lines ..)
      (nodup_names_ofUnit_lines ..)).mpr ?_
    intro name
    rw [mem_names_ofUnit_lines, mem_names_ofUnit_lines, sameDeclared.mem_iff]
  refine ⟨sameNames, ?_, ?_, ?_⟩
  · refine (List.perm_ext_iff_of_nodup (nodup_undefinedReferences_ofUnit_lines ..)
      (nodup_undefinedReferences_ofUnit_lines ..)).mpr ?_
    intro target
    rw [mem_undefinedReferences_ofUnit_lines, mem_undefinedReferences_ofUnit_lines,
      sameTargets.mem_iff, sameDeclared.mem_iff]
  · intro name
    have here := count_declaredNames policy lines tokens name
    have there := count_declaredNames policy others otherTokens name
    rw [sameDeclared.count_eq, sameNames.count_eq] at here
    omega
  · rw [timesReported_invalidTransitionFormat, timesReported_invalidTransitionFormat,
      SourceLine.length_shortTransitions_eq reordered]

/-- A unit read backwards, with a name declared twice and a target declared nowhere. -/
theorem agreesButOrder_of_perm_of_reversed_unit :
    (["state A \x7b".toList, "action a;".toList, "transition t: e -> B \x7b".toList,
        "transition u".toList, "state A \x7b".toList] : List Text).Perm
      ["state A \x7b".toList, "transition u".toList, "transition t: e -> B \x7b".toList,
        "action a;".toList, "state A \x7b".toList] ∧
      AgreesButOrder
        (ofUnit .adjacentDeclaration .lines
          ["state A \x7b".toList, "action a;".toList, "transition t: e -> B \x7b".toList,
            "transition u".toList, "state A \x7b".toList] [])
        (ofUnit .adjacentDeclaration .lines
          ["state A \x7b".toList, "transition u".toList, "transition t: e -> B \x7b".toList,
            "action a;".toList, "state A \x7b".toList] []) := by
  exact ⟨(List.reverse_perm _).symm,
    agreesButOrder_of_perm _ _ _ _ _ (List.reverse_perm _).symm⟩

end Analysis

end Smsl
