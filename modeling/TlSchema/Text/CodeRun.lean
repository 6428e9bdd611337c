/-!
# Runs of code points

The character classes of this library are tables of runs. A run `(first, last, step)` stands for the
code points `first`, `first + step`, and so on up to `last`: a step of one is a plain interval, and
a step of two covers the many alphabets that list upper and lower case letters in turn.
-/

namespace TlSchema.Text

/-- A run of code points: its first one, its last one and the distance between neighbours. -/
abbrev CodeRun := Nat × Nat × Nat

/-- Whether the code point `n` belongs to the run. -/
def CodeRun.contains (run : CodeRun) (n : Nat) : Bool :=
  run.1 ≤ n && n ≤ run.2.1 && (n - run.1) % run.2.2 == 0

/-- Whether the code point `n` belongs to one of the runs of a table. -/
def inRuns (table : List CodeRun) (n : Nat) : Bool :=
  table.any (·.contains n)

end TlSchema.Text
