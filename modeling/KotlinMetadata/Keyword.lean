/-
The keywords in front of declarations. Each keyword ends in a space, so that
the texts can be put together directly in front of what they describe; what
has no keyword in source is written as a comment.
-/
import KotlinMetadata.Artifact

namespace KotlinMetadata

/-- The texts of the flags that are set, in the order of the table. -/
def keywordsOf {F : Type} [Flag F] (flags : FlagSet F) (table : List (F × String)) : String :=
  String.join ((table.filter fun (flag, _) => flags.contains flag).map (·.2))

/-- The keyword of a visibility; what is visible everywhere or only locally has none. -/
def Visibility.keyword : Visibility → String
  | .internal => "internal "
  | .privateMember => "private "
  | .protectedMember => "protected "
  | .publicMember | .privateToThis | .localMember => ""

/-- The keyword of a modality. Interfaces are abstract without saying so. -/
def Modality.keyword (saysAbstract : Bool) : Modality → String
  | .final => ""
  | .overridable => "open "
  | .abstract => if saysAbstract then "abstract " else ""
  | .sealed => "sealed "

/-- The keyword of a member kind. -/
def MemberKind.keyword : MemberKind → String
  | .declaration => ""
  | .fakeOverride => "fakeOverride "
  | .delegation => "by "
  | .synthesized => "/* synthetic */ "

/-- The keyword of a variance. -/
def Variance.keyword : Variance → String
  | .invariant => ""
  | .contravariant => "in "
  | .covariant => "out "

/-- A text that depends on the kind of a class. -/
def ClassKind.keywordIf (kind : ClassKind) (table : List (ClassKind × String)) : String :=
  (table.lookup kind).getD ""

/-- The keywords of a class, up to its name. -/
def ClassInfo.keywords (c : ClassInfo) : String :=
  c.visibility.keyword
    ++ c.modality.keyword (c.kind ≠ .interface)
    ++ c.kind.keywordIf [(.annotationClass, "annotation class ")]
    ++ keywordsOf c.flags [(.inner, "inner "), (.data, "data "), (.value, "value ")]
    ++ c.kind.keywordIf [(.ordinary, "class ")]
    ++ keywordsOf c.flags [(.functional, "fun ")]
    ++ c.kind.keywordIf [(.interface, "interface "), (.object, "object ")]
    ++ keywordsOf c.flags [(.expect, "expect "), (.external, "external ")]
    ++ c.kind.keywordIf [(.companionObject, "companion object "), (.enumEntry, "enum entry "),
        (.enumClass, "enum class ")]
    ++ keywordsOf c.flags
        [(.compiledInCompatibilityMode, "/* compiledInCompatibilityMode */ "),
         (.hasMethodBodiesInInterface, "/* hasMethodBodiesInInterface */")]

/-- The keywords of a function, up to `fun`. -/
def Function.keywords (f : Function) : String :=
  f.visibility.keyword ++ f.modality.keyword true ++ f.memberKind.keyword
    ++ keywordsOf f.flags
        [(.inline, "inline "), (.infixCall, "infix "), (.operator, "operator "),
         (.tailrec, "tailrec "), (.external, "external "), (.suspend, "suspend "),
         (.expect, "expect ")]

/-- The keywords of a property, `val` or `var` among them. -/
def Property.keywords (p : Property) : String :=
  p.visibility.keyword ++ p.modality.keyword true ++ p.memberKind.keyword
    ++ (if p.isVar then "var " else "val ")
    ++ keywordsOf p.flags
        [(.const, "const "), (.lateinit, "lateinit "), (.external, "external "),
         (.delegated, "/* delegated */ "), (.expect, "expect "),
         (.movedFromInterfaceCompanion, "movedFromInterfaceCompanion ")]

/-- The keywords of a getter or setter. -/
def Accessor.keywords (a : Accessor) : String :=
  a.visibility.keyword ++ a.modality.keyword true
    ++ keywordsOf a.flags [(.external, "external "), (.inline, "inline ")]

/-- The keyword of a type. -/
def typeKeywords (flags : FlagSet TypeFlag) : String := keywordsOf flags [(.suspend, "suspend ")]

/-- The keyword of a type parameter. -/
def typeParameterKeywords (flags : FlagSet TypeParameterFlag) : String :=
  keywordsOf flags [(.reified, "reified ")]

/-- The keywords of a value parameter. -/
def valueParameterKeywords (flags : FlagSet ValueParameterFlag) : String :=
  keywordsOf flags [(.crossinline, "crossinline "), (.noinline, "noinline ")]

/-- The word for a flavor of synthetic classes. -/
def SyntheticFlavor.word : SyntheticFlavor → String
  | .regular => "regular"
  | .lambda => "lambda"
  | .defaultImpls => "default_impls"
  | .whenMappings => "when_mappings"

end KotlinMetadata
