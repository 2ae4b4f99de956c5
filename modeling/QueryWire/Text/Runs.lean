/-
  Sets of code points, each written as runs of a first and a last one.
-/
namespace QueryWire.Text

/-- Whether a code point is in one of the runs. -/
def isInRuns (runs : Array (Nat × Nat)) (n : Nat) : Bool :=
  runs.any (fun run => run.1 ≤ n && n ≤ run.2)

end QueryWire.Text
