import Smsl.Compilation.Sink
import Smsl.Text.Encoding

namespace Smsl

/-!
# Console output

Deliveries as text: the token table and the parse trees on request, diagnostics
under a heading, and quadruples as tables.  The text goes line by line to a
writer that may have room for a limited number of bytes; what does not fit is
refused after the room is filled, and no line is written after a refusal.
-/

/-- What the console shows on request. -/
structure ConsoleOptions where
  showTokens : Bool
  showParseTrees : Bool
  deriving Repr, DecidableEq

namespace Console

/-- A text filled up with blanks to a number of characters. -/
def pad
    (width : Nat)
    (text : String) :
    String :=
  text ++ String.ofList (List.replicate (width - text.length) ' ')

/-- The cells of a table row between bars, each filled up to its width. -/
def row (cells : List (Nat × String)) : String :=
  "| " ++ String.intercalate " | " (cells.map fun cell => pad cell.1 cell.2) ++ " |"

/-- The rule of the token table. -/
def tokenRule : String :=
  " " ++ String.ofList (List.replicate 83 '-')

/-- The rule of a table of quadruples. -/
def quadrupleRule : String :=
  String.ofList (List.replicate 73 '-')

/-- A row of the token table. -/
def tokenRow (line lexeme kind index : String) : String :=
  row [(8, line), (32, lexeme), (14, kind), (11, index)]

/-- The lines of the token table. -/
def tokenTable (tokens : List Token) : List String :=
  [tokenRule, tokenRow "Line" "Lexeme" "Token" "Token Index", tokenRule] ++
    tokens.map (fun token =>
      tokenRow (toString token.line) token.lexeme token.kind.label
        (toString token.kind.index)) ++
    [tokenRule]

/-- The branch of a token in a parse tree. -/
def branch (token : Token) : String :=
  if token.kind.isKeyword then
    "    ├── " ++ token.kind.label ++ " -> " ++ token.lexeme
  else if token.kind = .identifier then
    "    │   ├── Identifier -> " ++ token.lexeme
  else
    "    │   ├── Symbol -> " ++ token.lexeme

/-- The parse tree of a line of tokens. -/
def parseTree (line : TokenLine) : List String :=
  ["Line " ++ toString line.number ++ ":", "  Root"] ++ line.tokens.map branch

/-- A diagnostic, with its detail in parentheses. -/
def diagnosticLine (diagnostic : Diagnostic) : String :=
  match diagnostic.detail with
  | some detail => diagnostic.message ++ " (" ++ detail ++ ")"
  | none => diagnostic.message

/-- The heading of a list of diagnostics. -/
def heading : Option Stage → String
  | some stage => stage.name ++ " Errors:"
  | none => "Source Errors:"

/-- The lines for the diagnostics of a stage; only a clean semantic stage is announced. -/
def diagnosticLines
    (stage : Option Stage)
    (diagnostics : List Diagnostic) :
    List String :=
  if diagnostics.isEmpty then
    if stage = some .semantic then
      ["", "No semantic errors found."]
    else
      []
  else
    ["", heading stage] ++ diagnostics.map diagnosticLine

/-- A row of a table of quadruples. -/
def quadrupleRow (operation first second result : String) : String :=
  row [(15, operation), (15, first), (15, second), (15, result)]

/-- The lines of a table of quadruples. -/
def quadrupleTable
    (table : QuadrupleTable)
    (quadruples : List Quadruple) :
    List String :=
  let dashes := String.ofList (List.replicate 18 '-')
  ["", dashes ++ " " ++ table.title ++ " " ++ dashes,
    quadrupleRow "Operation" "Arg1" "Arg2" "Result", quadrupleRule] ++
    quadruples.map (fun quadruple =>
      quadrupleRow quadruple.operation.name quadruple.arg1 quadruple.arg2
        quadruple.arg3) ++
    [quadrupleRule]

/-- The lines that a delivery is shown as. -/
def deliveryLines (options : ConsoleOptions) : Delivery → List String
  | .tokens tokens =>
      (if options.showTokens then tokenTable tokens else []) ++
        (if options.showParseTrees then
          (TokenLine.group tokens).flatMap parseTree
        else
          [])
  | .diagnostics stage diagnostics =>
      diagnosticLines stage diagnostics
  | .quadruples table quadruples =>
      quadrupleTable table quadruples

end Console

/-- A byte writer; without a capacity it has room for everything. -/
structure Writer where
  capacity : Option Nat
  written : Array UInt8
  deriving Repr, DecidableEq

namespace Writer

/-- A writer that has written nothing. -/
def empty (capacity : Option Nat) : Writer where
  capacity := capacity
  written := #[]

/-- The reason why a full writer refuses. -/
def fullReason : String := "sink full"

/-- Write bytes; if they do not fit, the room is filled and the rest is refused. -/
def write
    (writer : Writer)
    (bytes : Array UInt8) :
    Except (Refusal Writer) Writer :=
  let all := writer.written ++ bytes
  match writer.capacity with
  | none =>
      .ok { writer with written := all }
  | some capacity =>
      if bytes.isEmpty || all.size ≤ capacity then
        .ok { writer with written := all }
      else
        .error
          { reason := fullReason
            sink := { writer with written := all.take capacity } }

/-- The bytes of a line of text, with its end. -/
def lineBytes (line : String) : Array UInt8 :=
  (line ++ "\n").toUTF8.data

/-- Write lines one after the other, up to the first that is refused. -/
def writeLines
    (writer : Writer)
    (lines : List String) :
    Except (Refusal Writer) Writer :=
  lines.foldlM (fun current line => current.write (lineBytes line)) writer

/-- What was written as text, without a character that is not complete. -/
def text (writer : Writer) : String :=
  let bytes : ByteArray := ⟨writer.written⟩
  (String.fromUTF8? (bytes.extract 0 (Text.validLength bytes))).getD ""

end Writer

/-- The sink that shows deliveries on a console. -/
def ConsoleOptions.sink (options : ConsoleOptions) : Sink Writer where
  accept writer delivery :=
    writer.writeLines (Console.deliveryLines options delivery)

end Smsl
