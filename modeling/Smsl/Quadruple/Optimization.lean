import Smsl.Log.Event
import Smsl.Quadruple.Basic

namespace Smsl

/-!
# Optimization

Three passes over a list of quadruples, each of which keeps the order of what it
leaves: repeated actions collapse, later copies of a quadruple go, and, if asked
for, later transitions with the event and target of an earlier one are renamed.
-/

/-- Which passes run. -/
inductive OptimizerPolicy where
  | deduplicate
  | deduplicateAndMerge
  deriving Repr, DecidableEq

/-- The name of a policy. -/
def OptimizerPolicy.name : OptimizerPolicy → String
  | .deduplicate => "deduplicate"
  | .deduplicateAndMerge => "deduplicate-and-merge"

/-- How much the passes changed. -/
structure OptimizationStats where
  repeatedActionsRemoved : Nat
  duplicatesRemoved : Nat
  transitionsRenamed : Nat
  deriving Repr, DecidableEq

/-- The counts as a JSON object. -/
def OptimizationStats.toJson (stats : OptimizationStats) : Json :=
  .object
    [("repeated_actions_removed", .number stats.repeatedActionsRemoved),
     ("duplicates_removed", .number stats.duplicatesRemoved),
     ("transitions_renamed", .number stats.transitionsRenamed)]

/-- The quadruples after a pass, and how many it removed or renamed. -/
structure Pass where
  quadruples : List Quadruple
  changed : Nat
  deriving Repr, DecidableEq

namespace Pass

/-- Two actions with one name. -/
def repeats (kept next : Quadruple) : Bool :=
  kept.isAction && next.isAction && next.arg1 = kept.arg1

/-- The quadruples after a kept one, without repetitions of it. -/
def collapseAfter : Quadruple → List Quadruple → List Quadruple
  | _, [] =>
      []
  | kept, next :: rest =>
      if repeats kept next then
        collapseAfter kept rest
      else
        next :: collapseAfter next rest

/-- The quadruples with each run of actions of one name cut to its first. -/
def collapsed : List Quadruple → List Quadruple
  | [] =>
      []
  | first :: rest =>
      first :: collapseAfter first rest

/-- Collapse repeated actions. -/
def collapseRepeatedActions (quadruples : List Quadruple) : Pass :=
  let kept := collapsed quadruples
  { quadruples := kept
    changed := quadruples.length - kept.length }

/-- The quadruples that were not seen before. -/
def fresh : List Quadruple → List Quadruple → List Quadruple
  | _, [] =>
      []
  | seen, next :: rest =>
      if seen.contains next then
        fresh seen rest
      else
        next :: fresh (next :: seen) rest

/-- Drop every quadruple that equals an earlier one. -/
def eliminateDuplicates (quadruples : List Quadruple) : Pass :=
  let kept := fresh [] quadruples
  { quadruples := kept
    changed := quadruples.length - kept.length }

/-- The name of the first transition with an event and a target. -/
def firstName?
    (firsts : List Quadruple)
    (event target : String) :
    Option String :=
  (firsts.find? fun first => first.arg2 = event && first.arg3 = target).map (·.arg1)

/-- Rename later transitions after the first one of their event and target. -/
def mergeAfter : List Quadruple → List Quadruple → Pass
  | _, [] =>
      { quadruples := [], changed := 0 }
  | firsts, next :: rest =>
      if next.isTransition then
        match firstName? firsts next.arg2 next.arg3 with
        | some name =>
            let others := mergeAfter firsts rest
            { quadruples :=
                { next with arg1 := name ++ "_" ++ next.arg1 } :: others.quadruples
              changed := others.changed + 1 }
        | none =>
            let others := mergeAfter (next :: firsts) rest
            { others with quadruples := next :: others.quadruples }
      else
        let others := mergeAfter firsts rest
        { others with quadruples := next :: others.quadruples }

/-- Merge transitions that share an event and a target, by renaming the later ones. -/
def mergeTransitions (quadruples : List Quadruple) : Pass :=
  mergeAfter [] quadruples

end Pass

/-- Optimized quadruples, with the number of them before. -/
structure Optimization where
  before : Nat
  quadruples : List Quadruple
  stats : OptimizationStats
  deriving Repr, DecidableEq

namespace Optimization

/-- Optimize quadruples under a policy. -/
def ofQuadruples
    (policy : OptimizerPolicy)
    (quadruples : List Quadruple) :
    Optimization :=
  let collapsed := Pass.collapseRepeatedActions quadruples
  let distinct := Pass.eliminateDuplicates collapsed.quadruples
  let merged : Pass :=
    match policy with
    | .deduplicate => { quadruples := distinct.quadruples, changed := 0 }
    | .deduplicateAndMerge => Pass.mergeTransitions distinct.quadruples
  { before := quadruples.length
    quadruples := merged.quadruples
    stats :=
      { repeatedActionsRemoved := collapsed.changed
        duplicatesRemoved := distinct.changed
        transitionsRenamed := merged.changed } }

/-- The event at the end of an optimization. -/
def completion
    (policy : OptimizerPolicy)
    (optimization : Optimization) :
    Log.Event :=
  (Log.Event.success Code.optimizationComplete "Optimization complete").withValues
    [("policy", policy.name),
     ("before", toString optimization.before),
     ("after", toString optimization.quadruples.length),
     ("renamed", toString optimization.stats.transitionsRenamed)]

/-- The events of an optimization, in order. -/
def events
    (policy : OptimizerPolicy)
    (optimization : Optimization) :
    List Log.Event :=
  [optimization.completion policy]

end Optimization

end Smsl
