/-
Class name filters: a list of patterns divided by commas, such as
`pkg.**,!pkg.internal.*`. `**` stands for any run of characters of a line,
`*` for any run within one package, `?` for one character other than the
package separator; a leading `!` negates a pattern. The first pattern that
matches decides; when none does, the name is accepted only if the last
pattern is negated.
-/
import KotlinMetadata.Name
import KotlinMetadata.Text.CharClass
import KotlinMetadata.Text.Quoted

namespace KotlinMetadata

/-- A part of a pattern. -/
inductive Wildcard where
  /-- Any run of characters other than line feed. -/
  | anything
  /-- Any run of characters other than `/`. -/
  | segment
  /-- One character other than `/`. -/
  | one
  /-- The character itself. -/
  | exactly (c : Char)
deriving DecidableEq, Repr

namespace Wildcard

/-- Whether a part stands for a run of characters, the empty one included, rather than for one. -/
def isRun : Wildcard → Bool
  | .anything => true
  | .segment => true
  | .one => false
  | .exactly _ => false

/-- Whether a part can stand for a character, alone or within a run. -/
def admits : Wildcard → Char → Bool
  | .anything, c => c ≠ '\n'
  | .segment, c => c ≠ '/'
  | .one, c => c ≠ '/'
  | .exactly x, c => c = x

/-- From the answers of a pattern for the endings of a text, those of the pattern with a part put in
front. Answers are listed by ending, the whole text first. -/
def extend (w : Wildcard) : List Char → List Bool → List Bool
  | [], later => [w.isRun && later.headD false]
  | c :: s, later =>
    let rest := w.extend s later.tail
    let answer :=
      if w.isRun then later.headD false || (w.admits c && rest.headD false)
      else w.admits c && later.tail.headD false
    answer :: rest

/-- The answers of a pattern for the endings of a text, the whole text first. -/
def endings : List Wildcard → List Char → List Bool
  | [], s => s.map (fun _ => false) ++ [true]
  | w :: p, s => w.extend s (endings p s)

/-- Whether a text splits into consecutive pieces, one for each part of the pattern. The endings are
decided part by part from the right, so the work is the product of the two lengths. -/
def accepts (p : List Wildcard) (s : List Char) : Bool := (endings p s).headD false

theorem endings_cons (p : List Wildcard) (c : Char) (s : List Char) :
    endings p (c :: s) = accepts p (c :: s) :: endings p s := by
  induction p with
  | nil => rfl
  | cons w p ih => rw [accepts, endings, endings, ih, extend]; rfl

theorem accepts_nil (s : List Char) : accepts [] s = s.isEmpty := by
  cases s <;> rfl

theorem accepts_cons_nil (w : Wildcard) (p : List Wildcard) :
    accepts (w :: p) [] = (w.isRun && accepts p []) := rfl

theorem accepts_run {w : Wildcard} (h : w.isRun = true) (p : List Wildcard) (c : Char) (s : List Char) :
    accepts (w :: p) (c :: s) = (accepts p (c :: s) || (w.admits c && accepts (w :: p) s)) := by
  rw [accepts, endings, endings_cons, extend, if_pos h]; rfl

theorem accepts_single {w : Wildcard} (h : w.isRun = false) (p : List Wildcard) (c : Char) (s : List Char) :
    accepts (w :: p) (c :: s) = (w.admits c && accepts p s) := by
  rw [accepts, endings, endings_cons, extend, if_neg (by simp [h])]; rfl

/-- The parts of a pattern, read from the left; two stars in a row are one part. -/
def read : List Char → List Wildcard
  | [] => []
  | '*' :: '*' :: s => .anything :: read s
  | '*' :: s => .segment :: read s
  | '?' :: s => .one :: read s
  | c :: s => .exactly c :: read s

end Wildcard

/-- One entry of a filter. -/
structure ClassPattern where
  parts : List Wildcard
  negated : Bool
deriving DecidableEq, Repr

/-- Whether an internal name matches the entry, negated or not. -/
def ClassPattern.covers (p : ClassPattern) (name : String) : Bool :=
  Wildcard.accepts p.parts name.toList

/-- The entry written as the given characters. -/
def ClassPattern.read (s : List Char) : ClassPattern :=
  let (negated, body) :=
    match s with
    | '!' :: rest => (true, rest)
    | _ => (false, s)
  { parts := Wildcard.read (Text.replaceEach '.' ['/'] body), negated }

/-- A class name filter. -/
structure ClassFilter where
  patterns : List ClassPattern
deriving DecidableEq, Repr

namespace ClassFilter

/-- Why a text is not a filter: it has no entry. -/
structure NoPattern where
  text : String
deriving DecidableEq, Repr

/-- The message for a text without an entry. -/
def NoPattern.message (e : NoPattern) : String := "Empty class name filter " ++ Text.quoted e.text

/-- The entries of a text: its pieces between commas, without blanks at their ends, unless empty. -/
def entries (text : String) : List (List Char) :=
  ((Text.pieces ',' text.toList).map Text.trimChars).filter (!·.isEmpty)

/-- The filter written as a text. -/
def parse (text : String) : Except NoPattern ClassFilter :=
  match entries text with
  | [] => .error ⟨text⟩
  | entry :: rest => .ok ⟨(entry :: rest).map ClassPattern.read⟩

/-- Whether a name is accepted by the first pattern that covers it, `fallback` if none does. -/
def decideBy (name : String) : (fallback : Bool) → List ClassPattern → Bool
  | fallback, [] => fallback
  | _, p :: rest => if p.covers name then !p.negated else decideBy name p.negated rest

/-- Whether the filter accepts an internal name. -/
def accepts (f : ClassFilter) (name : String) : Bool := decideBy name false f.patterns

end ClassFilter

end KotlinMetadata
