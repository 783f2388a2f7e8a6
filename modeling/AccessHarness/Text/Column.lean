/-!
# Columns

Texts filled up with spaces, so that they stand in columns.  A text that is too long for
its column is kept whole.
-/

namespace AccessHarness.Text

/-- A text at the left of a column. -/
def atLeft (width : Nat) (s : String) : String :=
  s ++ String.ofList (List.replicate (width - s.length) ' ')

/-- A text at the right of a column. -/
def atRight (width : Nat) (s : String) : String :=
  String.ofList (List.replicate (width - s.length) ' ') ++ s

end AccessHarness.Text
