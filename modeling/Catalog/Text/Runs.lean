/-!
This module contains classes of characters that are given as runs of code points.
-/

namespace Catalog.Text

def covers (runs : List (Nat × Nat)) (n : Nat) : Bool :=
  runs.any fun (first, last) => first ≤ n && n ≤ last

end Catalog.Text
