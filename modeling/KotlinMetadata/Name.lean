/-
Class names in their two forms. An internal name divides its packages with
`/` (`pkg/sub/Outer$Inner`), an external one with `.` (`pkg.sub.Outer$Inner`);
`$` divides a nested class from the class around it in both.
-/
import KotlinMetadata.Text.Edit

namespace KotlinMetadata.Name

open Text

/-- The package of an internal name: what precedes its last `/`, and nothing in the default package. -/
def package (internal : String) : String :=
  String.ofList ((beforeLast? '/' internal.toList).getD [])

/-- An internal name without its package. -/
def short (internal : String) : String :=
  String.ofList ((afterLast? '/' internal.toList).getD internal.toList)

/-- The external form of an internal name. -/
def toExternal (internal : String) : String := replaceChar '/' "." internal

/-- The package of an internal name, in external form. -/
def externalPackage (internal : String) : String := toExternal (package internal)

/-- An external name without its package. -/
def shortExternal (external : String) : String :=
  String.ofList ((afterLast? '.' external.toList).getD external.toList)

/-- The internal form of a name given in either form. -/
def toInternal (name : String) : String := replaceChar '.' "/" name

/-- The name of a class nested in another. -/
def nested (outer inner : String) : String := outer ++ "$" ++ inner

end KotlinMetadata.Name
