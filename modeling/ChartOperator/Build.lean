/-!
# Facts about the build

The names under which the program shows itself in its log, in its metrics and on request.
-/

namespace ChartOperator.Build

/-- The name of the program. -/
def program : String := "helm-operator"

/-- The version of the program. -/
def version : String := "0.1.0"

/-- The commit from which the program was built, where it is known. -/
def commit : String := "unknown"

/-- The operating system for which the program was built. -/
def system : String := "linux"

/-- The processor for which the program was built. -/
def architecture : String := "x86_64"

end ChartOperator.Build
