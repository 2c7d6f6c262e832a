import BraceLint.Position

/-!
# Open markers

A marker is an opening token that waits for its closing brace: a brace in code,
or the `${` that starts an interpolation in a template.
-/
namespace BraceLint

/-- What a marker opens. -/
inductive MarkerKind where
  /-- A block of code, opened by a brace. -/
  | brace
  /-- An interpolation in a template, opened by a dollar sign and a brace. -/
  | interpolation
deriving DecidableEq, Repr

/-- The characters that open a marker of this kind. -/
def MarkerKind.symbol : MarkerKind → String
  | .brace => "\x7b"
  | .interpolation => "$\x7b"

/-- An opening token and the position of its first character. -/
structure Marker where
  /-- What the token opens. -/
  kind : MarkerKind
  /-- Where the token starts. -/
  position : Position
deriving DecidableEq, Repr

end BraceLint
