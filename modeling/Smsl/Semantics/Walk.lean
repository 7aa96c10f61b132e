import Smsl.Line
import Smsl.Semantics.StateTable
import Smsl.Statement.Kind
import Smsl.Statement.Transition
import Smsl.Token.Basic

namespace Smsl

/-!
# Walking a unit

One pass over a unit collects its states, its references, and the errors that
show at once.  The pass goes over the significant lines or over the tokens line
by line; both kinds of lines come down to the same four statements.
-/

/-- Which states an action gives content to. -/
inductive AttributionPolicy where
  | adjacentDeclaration
  | anyAction
  deriving Repr, DecidableEq

/-- The name of a policy. -/
def AttributionPolicy.name : AttributionPolicy → String
  | .adjacentDeclaration => "adjacent-declaration"
  | .anyAction => "any-action"

/-- What a line says about states. -/
inductive StateFact where
  | declares (name : String)
  | refersTo (target : String)
  | badTransition
  | acts (adjacent : Option String)
  deriving Repr, DecidableEq

/-- What a walk has collected. -/
structure Walk where
  table : StateTable
  references : ReferenceSet
  errors : Array SemanticError
  deriving Repr, DecidableEq

namespace Walk

/-- Nothing is collected yet. -/
def empty : Walk where
  table := StateTable.empty
  references := ReferenceSet.empty
  errors := #[]

/-- Note an error. -/
def report
    (walk : Walk)
    (error : SemanticError) :
    Walk :=
  { walk with errors := walk.errors.push error }

/-- Declare a state, or note that it is declared already. -/
def declare
    (walk : Walk)
    (name : String)
    (line : Nat) :
    Walk :=
  match walk.table.declare name line with
  | .ok table =>
      { walk with table := table }
  | .error error =>
      walk.report error

/--
Give content to the states that an action counts for: to the one declared on the
line above, if there is one, or to all that are declared so far.
-/
def giveContent
    (walk : Walk)
    (policy : AttributionPolicy)
    (adjacent : Option String) :
    Walk :=
  match policy, adjacent with
  | .adjacentDeclaration, some name =>
      { walk with table := walk.table.markContent name }
  | .adjacentDeclaration, none =>
      walk
  | .anyAction, _ =>
      { walk with table := walk.table.markAllContent }

/-- Take in what a line says. -/
def step
    (policy : AttributionPolicy)
    (walk : Walk)
    (line : Nat) :
    StateFact → Walk
  | .declares name =>
      walk.declare name line
  | .refersTo target =>
      { walk with references := walk.references.insert target }
  | .badTransition =>
      walk.report (.invalidTransitionFormat line)
  | .acts adjacent =>
      walk.giveContent policy adjacent

/-- Take in what the lines of a unit say, in order. -/
def ofFacts
    (policy : AttributionPolicy)
    (facts : List (Nat × StateFact)) :
    Walk :=
  facts.foldl (fun walk fact => walk.step policy fact.1 fact.2) empty

end Walk

namespace StateFact

/-- The name that a line declares if it reads exactly `state`, a name, and a brace. -/
def declaredOn? (line : Text) : Option String := do
  let rest ← Text.stripStart? "state ".toList line
  let name ← Text.stripEnd? " \x7b".toList rest
  if name.isEmpty || name.any Text.isBlank then
    none
  else
    some (String.ofList name)

/-- The state declared on the raw line directly above a line. -/
def declaredAbove?
    (lines : Array Text)
    (number : Nat) :
    Option String := do
  let raw ← if number < 2 then none else lines[number - 2]?
  declaredOn? (SourceLine.sanitize raw)

/-- What a significant line of a unit says about states. -/
def ofLine?
    (lines : Array Text)
    (line : SourceLine) :
    Option StateFact :=
  match StatementKind.ofText line.text with
  | .stateDeclaration =>
      (Text.fields line.text)[1]?.map fun name =>
        .declares (String.ofList name)
  | .transitionDeclaration =>
      match TransitionParts.ofText? line.text with
      | some parts => some (.refersTo (String.ofList parts.target))
      | none => some .badTransition
  | .action =>
      some (.acts (declaredAbove? lines line.number))
  | .marker =>
      none
  | .brace =>
      none
  | .unrecognized =>
      none

/-- What the raw lines of a unit say about states. -/
def ofLines (lines : List Text) : List (Nat × StateFact) :=
  let raw := lines.toArray
  (SourceLine.significant lines).filterMap fun line =>
    (ofLine? raw line).map fun fact => (line.number, fact)

/-- The lexeme of a token that is an identifier. -/
def identifier? (token : Token) : Option String :=
  if token.kind = .identifier then
    some token.lexeme
  else
    none

/-- The name that a line declares if it is made of `state`, a name, and a brace. -/
def declaredBy? (line : TokenLine) : Option String :=
  match line.tokens with
  | [keyword, name, opening] =>
      if keyword.kind = .keyword .state && opening.isSymbol "\x7b" then
        identifier? name
      else
        none
  | _ =>
      none

/-- The tokens after the last arrow, if there is one. -/
def afterLastArrow? : List Token → Option (List Token)
  | [] =>
      none
  | token :: rest =>
      match afterLastArrow? rest with
      | some after => some after
      | none => if token.isSymbol transitionArrow then some rest else none

/-- The identifier directly after the last arrow. -/
def targetOf? (tokens : List Token) : Option String := do
  let after ← afterLastArrow? tokens
  let next ← after.head?
  identifier? next

/-- The line of tokens is an action. -/
def isAction (line : TokenLine) : Bool :=
  line.tokens.head?.any fun first => first.kind = .keyword .action

/--
The line of tokens directly above an action: the one before it, if the number behind
that one's is the action's.  Other lines do not ask for it, and there is no answer
where the count of the number traps.
-/
def directlyAbove?
    (counting : Counting)
    (previous : Option TokenLine)
    (line : TokenLine) :
    Option (Option TokenLine) :=
  match isAction line, previous with
  | true, some above => do
      let next ← counting.next? above.number
      return if next = line.number then some above else none
  | _, _ =>
      some none

/-- What a line of tokens says about states, given the line directly above it. -/
def ofNeighbours?
    (above : Option TokenLine)
    (line : TokenLine) :
    Option StateFact :=
  match line.tokens with
  | [] =>
      none
  | first :: rest =>
      match first.kind with
      | .keyword .state =>
          (rest.head?.bind identifier?).map .declares
      | .keyword .transition =>
          match targetOf? line.tokens with
          | some target => some (.refersTo target)
          | none => some .badTransition
      | .keyword .action =>
          some (.acts (above.bind declaredBy?))
      | _ =>
          none

/-- The lines of tokens, each with the line before it. -/
def withPrevious (tokens : List Token) : List (Option TokenLine × TokenLine) :=
  (none :: (TokenLine.group tokens).map some).zip (TokenLine.group tokens)

/-- What any tokens say about states; none where the count of a line number traps. -/
def ofTokens?
    (counting : Counting)
    (tokens : List Token) :
    Option (List (Nat × StateFact)) :=
  (withPrevious tokens).filterMapM fun pair =>
    (directlyAbove? counting pair.1 pair.2).map fun above =>
      (ofNeighbours? above pair.2).map fun fact => (pair.2.number, fact)

/--
What the tokens of a unit say about states.  They are numbered by the raw lines of
the unit, and no unit has as many lines as there are words.
-/
def ofTokens (tokens : List Token) : List (Nat × StateFact) :=
  (ofTokens? .unbounded tokens).getD []

end StateFact

end Smsl
