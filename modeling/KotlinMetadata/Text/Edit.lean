/-
Cutting and replacing in texts. Every operation is a function on lists of
characters, by recursion on the list; the versions on strings convert at
both ends.
-/
namespace KotlinMetadata.Text

/-! ## On characters -/

/-- What follows the last occurrence of a character, if it occurs. -/
def afterLast? (sep : Char) : List Char → Option (List Char)
  | [] => none
  | c :: s => (afterLast? sep s).or (if c = sep then some s else none)

/-- What precedes the last occurrence of a character, if it occurs. -/
def beforeLast? (sep : Char) : List Char → Option (List Char)
  | [] => none
  | c :: s =>
    match beforeLast? sep s with
    | some before => some (c :: before)
    | none => if c = sep then some [] else none

/-- Every occurrence of a character replaced by a text. -/
def replaceEach (old : Char) (new : List Char) (s : List Char) : List Char :=
  s.flatMap fun c => if c = old then new else [c]

/-- The pieces between the occurrences of a character: one more than there are occurrences. -/
def pieces (sep : Char) : List Char → List (List Char)
  | [] => [[]]
  | c :: s =>
    if c = sep then [] :: pieces sep s
    else
      match pieces sep s with
      | [] => [[c]]
      | piece :: rest => (c :: piece) :: rest

/-- The occurrences of a pattern, found from the left and not overlapping, replaced by a text;
the first `skip` characters are the rest of an occurrence and left out. -/
def replaceAllAfter (pattern new : List Char) : (skip : Nat) → List Char → List Char
  | _, [] => []
  | skip + 1, _ :: s => replaceAllAfter pattern new skip s
  | 0, c :: s =>
    if pattern.isPrefixOf (c :: s) then new ++ replaceAllAfter pattern new (pattern.length - 1) s
    else c :: replaceAllAfter pattern new 0 s

/-- What precedes the first occurrence of a pattern, if it occurs. -/
def beforeFirst? (pattern : List Char) : List Char → Option (List Char)
  | [] => if pattern.isEmpty then some [] else none
  | c :: s =>
    if pattern.isPrefixOf (c :: s) then some []
    else (beforeFirst? pattern s).map (c :: ·)

/-- The characters before a given ending, if the text ends so. -/
def dropEnding? (ending s : List Char) : Option (List Char) :=
  (ending.reverse.isPrefixOf? s.reverse).map List.reverse

/-! ## On strings -/

/-- The rest of a text after a given beginning, if it begins so. -/
def after? (beginning s : String) : Option String :=
  (beginning.toList.isPrefixOf? s.toList).map String.ofList

/-- Whether a text begins with another. -/
def beginsWith (beginning s : String) : Bool := beginning.toList.isPrefixOf s.toList

/-- Every occurrence of a character replaced by a text. -/
def replaceChar (old : Char) (new : String) (s : String) : String :=
  String.ofList (replaceEach old new.toList s.toList)

/-- Every occurrence of a non-empty pattern, from the left, replaced by a text. -/
def replaceAll (pattern new s : String) : String :=
  String.ofList (replaceAllAfter pattern.toList new.toList 0 s.toList)

/-- A text written a number of times. -/
def times (n : Nat) (s : String) : String := String.join (List.replicate n s)

/-- The texts with a separator between each and the next. -/
def joinWith (sep : String) (parts : List String) : String := sep.intercalate parts

end KotlinMetadata.Text
