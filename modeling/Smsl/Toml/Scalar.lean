import Smsl.Toml.DateTime
import Smsl.Toml.Number
import Smsl.Toml.QuotedString

namespace Smsl.Toml

/-!
# Scalars

The values without brackets.
-/

/-- A truth value. -/
def truth : Reader Value
  | 't' :: 'r' :: 'u' :: 'e' :: rest => some (.boolean true, rest)
  | 'f' :: 'a' :: 'l' :: 's' :: 'e' :: rest => some (.boolean false, rest)
  | _ => none

/-- A value without brackets. -/
def scalar : Reader Value := fun text =>
  ((QuotedString.read text).map fun read => (.string (String.ofList read.1), read.2)) <|>
    truth text <|> DateTime.read text <|> Number.read text

end Smsl.Toml
