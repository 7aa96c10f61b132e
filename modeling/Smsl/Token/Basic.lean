import Smsl.Text.Basic

namespace Smsl

/-!
# Tokens

A token is a classified lexeme under its line number.  The six keywords have
kinds of their own.  A flat list of tokens is viewed line by line as its maximal
runs of tokens with one line number, found by a walk over the positions of the list.
-/

/-- The reserved words of the language. -/
inductive Keyword where
  | state
  | transition
  | event
  | action
  | start
  | finish
  deriving Repr, DecidableEq

namespace Keyword

/-- All keywords. -/
def all : List Keyword :=
  [.state, .transition, .event, .action, .start, .finish]

/-- The spelling of a keyword. -/
def spelling : Keyword → String
  | .state => "state"
  | .transition => "transition"
  | .event => "event"
  | .action => "action"
  | .start => "start"
  | .finish => "end"

/-- The name of a keyword. -/
def name : Keyword → String
  | .state => "State"
  | .transition => "Transition"
  | .event => "Event"
  | .action => "Action"
  | .start => "Start"
  | .finish => "End"

/-- The keyword with a spelling; case matters. -/
def ofSpelling? (word : String) : Option Keyword :=
  all.find? fun keyword => keyword.spelling = word

end Keyword

/-- The class of a lexeme. -/
inductive TokenKind where
  | keyword (word : Keyword)
  | identifier
  | number
  | string
  | symbol
  | unknown
  deriving Repr, DecidableEq

namespace TokenKind

/-- All kinds, in the order of their indices, and the unknown one last. -/
def all : List TokenKind :=
  Keyword.all.map .keyword ++ [.identifier, .number, .string, .symbol, .unknown]

/-- The name of a kind. -/
def name : TokenKind → String
  | .keyword word => word.name
  | .identifier => "Identifier"
  | .number => "Number"
  | .string => "String"
  | .symbol => "Symbol"
  | .unknown => "Unknown"

/-- The label of a kind in tables. -/
def label : TokenKind → String
  | .keyword .state => "STATE"
  | .keyword .transition => "TRANSITION"
  | .keyword .event => "EVENT"
  | .keyword .action => "ACTION"
  | .keyword .start => "START"
  | .keyword .finish => "END"
  | .identifier => "IDENTIFIER"
  | .number => "NUMBER"
  | .string => "STRING"
  | .symbol => "SYMBOL"
  | .unknown => "UNKNOWN"

/-- The index of a kind in the token table; the unknown kind has none and shows 0. -/
def index : TokenKind → Nat
  | .keyword .state => 1
  | .keyword .transition => 2
  | .keyword .event => 3
  | .keyword .action => 4
  | .keyword .start => 5
  | .keyword .finish => 6
  | .identifier => 7
  | .number => 8
  | .string => 9
  | .symbol => 10
  | .unknown => 0

/-- The kind belongs to a keyword. -/
def isKeyword : TokenKind → Bool
  | .keyword _ => true
  | _ => false

/-- The kind with a name. -/
def ofName? (name : String) : Option TokenKind :=
  all.find? fun kind => kind.name = name

end TokenKind

/-- A classified lexeme and the line it comes from. -/
structure Token where
  line : Nat
  lexeme : String
  kind : TokenKind
  deriving Repr, DecidableEq

namespace Token

/-- The token is the given symbol. -/
def isSymbol
    (token : Token)
    (symbol : String) :
    Bool :=
  token.kind = .symbol && token.lexeme = symbol

/-- The token as text: the label of its kind and its lexeme between apostrophes. -/
def render (token : Token) : String :=
  token.kind.label ++ " '" ++ token.lexeme ++ "'"

end Token

/-- Neighbouring tokens of one line. -/
structure TokenLine where
  number : Nat
  tokens : List Token
  deriving Repr, DecidableEq

/-- How far a walk over tokens has come: its groups, and where the open one starts. -/
structure Grouping where
  groups : Array TokenLine
  start : Nat
  deriving Repr, DecidableEq

namespace Grouping

/-- No group is closed, and the open one starts at the first token. -/
def initial : Grouping where
  groups := #[]
  start := 0

/-- The tokens between two positions, which must be in order and in bounds. -/
def between?
    (tokens : Array Token)
    (start stop : Nat) :
    Option (List Token) :=
  if start ≤ stop ∧ stop ≤ tokens.size then
    some (tokens.extract start stop).toList
  else
    none

/-- The open group ends before a position: behind all tokens, or at one of another line. -/
def endsBefore?
    (tokens : Array Token)
    (grouping : Grouping)
    (position : Nat) :
    Option Bool :=
  if position = tokens.size then
    some true
  else do
    let next ← tokens[position]?
    let first ← tokens[grouping.start]?
    return next.line != first.line

/-- Close a group, with the next one open at a position. -/
def push
    (grouping : Grouping)
    (line : TokenLine)
    (position : Nat) :
    Grouping where
  groups := grouping.groups.push line
  start := position

/-- Close the open group before a position. -/
def close?
    (tokens : Array Token)
    (grouping : Grouping)
    (position : Nat) :
    Option Grouping := do
  let first ← tokens[grouping.start]?
  let run ← between? tokens grouping.start position
  return grouping.push { number := first.line, tokens := run } position

/-- Go on to a position, and close the open group if it ends before it. -/
def step?
    (tokens : Array Token)
    (grouping : Grouping)
    (position : Nat) :
    Option Grouping := do
  if ← endsBefore? tokens grouping position then
    close? tokens grouping position
  else
    return grouping

end Grouping

namespace TokenLine

/-- The groups of a walk over all positions behind the first token; none if it left the bounds. -/
def group? (tokens : List Token) : Option (List TokenLine) := do
  let walked ←
    (List.range' 1 tokens.length).foldlM (Grouping.step? tokens.toArray) Grouping.initial
  return walked.groups.toList

/-- The maximal runs of tokens with one line number, in order. -/
def group (tokens : List Token) : List TokenLine :=
  (group? tokens).getD []

end TokenLine

end Smsl
