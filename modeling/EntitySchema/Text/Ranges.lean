/-! Sets of code points given by ranges and by runs with a step. -/
namespace EntitySchema.Text

def inRanges (ranges : List (Nat × Nat)) (n : Nat) : Bool :=
  ranges.any fun r => r.1 ≤ n && n ≤ r.2

/-- Whether `n` is one of `first, first + step, …, last` for one of the runs. -/
def inStrides (runs : List (Nat × Nat × Nat)) (n : Nat) : Bool :=
  runs.any fun r => r.1 ≤ n && n ≤ r.2.1 && (n - r.1) % r.2.2 == 0

end EntitySchema.Text
