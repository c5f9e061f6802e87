/-!
# The call stack

Values stand inside each other, and reading or writing a value that stands in others takes calls
inside of calls. The stack of calls is bounded, and running out of it is reported with a text of its
own. How much it holds depends on the machine and on the calls made before, so that everything that
may run out of it is given the stack that there is.
-/

namespace VersionCatalog

/-- A bounded stack of calls. -/
class CallStack where
  /-- How many inline tables can be read inside each other. -/
  tableDepth : Nat
  /-- A table in a table can be read with every stack on which a program gets that far. -/
  two_le_tableDepth : 2 ≤ tableDepth
  /-- How many lists and mappings can be written inside each other. -/
  writtenDepth : Nat
  /-- What is reported when the stack is exhausted. -/
  message : String

namespace CallStack

/-- The stack of a program that nothing has called: of its thousand calls, a table takes two. -/
scoped instance standard : CallStack where
  tableDepth := 490
  two_le_tableDepth := by decide
  writtenDepth := 970
  message := "maximum recursion depth exceeded in comparison"

end CallStack

end VersionCatalog
