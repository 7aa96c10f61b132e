namespace Smsl

/-!
# Build limits

The limits of the development build, and where they come from.
-/

namespace Limits

/-- The name of the build profile. -/
def profile : String := "development"

/-- The directory of the build profiles. -/
def profileDirectory : String := "config"

/-- Where the limits of this build come from. -/
def origin : String :=
  "Generated from " ++ profileDirectory ++ "/" ++ profile ++ ".toml"

/-- The most bytes that a source file may have. -/
def maxFileSize : Nat := 10485760

/-- The most lines that a source file may have. -/
def maxLineCount : Nat := 200000

/-- The most characters that a lexeme may have. -/
def maxLexemeLength : Nat := 1024

/-- The most tokens that a unit may have. -/
def maxTokenCount : Nat := 1000000

/-- The most bytes that a log message keeps. -/
def maxLogMessageLength : Nat := 4096

end Limits

end Smsl
