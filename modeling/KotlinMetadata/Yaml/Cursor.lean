/-
Places in a configuration document. A cursor is the characters left, where
they begin, and whether a key or a sequence entry may begin there: in block
style only after a line break or an entry mark, never behind something else
on a line.

`skip` moves over blanks and comments. Where a key may begin, a tab is no
blank, since indentation is made of spaces. A byte order mark may begin any
line; it is passed over and counts as a column.
-/
namespace KotlinMetadata.Yaml

/-- Whether a character ends a line. Carriage returns and next-line marks are line feeds by the
time the document is looked at. -/
def isBreak (c : Char) : Bool := c = '\n' || c.toNat = 0x2028 || c.toNat = 0x2029

/-- Whether a character is a blank within a line. -/
def isBlankChar (c : Char) : Bool := c = ' ' || c = '\t'

/-- Whether a character is the byte order mark. -/
def isByteOrderMark (c : Char) : Bool := c.toNat = 0xFEFF

/-- Whether a token could end before the characters: at a blank, a line break or the end. -/
def endsToken : List Char → Bool
  | [] => true
  | c :: _ => isBlankChar c || isBreak c

/-- Whether the characters begin with the mark that ends or begins a document. -/
def isDocumentMark : List Char → Bool
  | '-' :: '-' :: '-' :: s => endsToken s
  | '.' :: '.' :: '.' :: s => endsToken s
  | _ => false

/-- A place in a document. -/
structure Cursor where
  rest : List Char
  line : Nat := 0
  column : Nat := 0
  /-- The number of bytes before the place, in UTF-8. -/
  index : Nat := 0
  /-- Whether a key or a sequence entry may begin here. -/
  keyAllowed : Bool := true

namespace Cursor

/-- The place after a character, before the characters given. -/
def step (c : Cursor) (x : Char) (rest : List Char) : Cursor :=
  let index := c.index + x.utf8Size
  if isBreak x then { c with rest, line := c.line + 1, column := 0, index }
  else { c with rest, column := c.column + 1, index }

/-- The place a number of characters further on. -/
def advance (c : Cursor) : Nat → Cursor
  | 0 => c
  | n + 1 =>
    match c.rest with
    | [] => c
    | x :: rest => (c.step x rest).advance n

/-- The place with a key allowed or not. -/
def allowKey (allowed : Bool) (c : Cursor) : Cursor := { c with keyAllowed := allowed }

/-- Moves over blanks, line breaks and comments, in flow style or in block style. -/
def skipFrom (flow : Bool) : (comment : Bool) → Cursor → List Char → Cursor
  | _, c, [] => c
  | comment, c, x :: rest =>
    if isBreak x then skipFrom flow false ((c.step x rest).allowKey (c.keyAllowed || !flow)) rest
    else if comment || x = '#' then skipFrom flow true (c.step x rest) rest
    else if c.column = 0 && isByteOrderMark x then skipFrom flow false (c.step x rest) rest
    else if x = ' ' || (x = '\t' && (flow || !c.keyAllowed)) then skipFrom flow false (c.step x rest) rest
    else c

/-- The next place at which something other than blanks and comments stands. -/
def skip (flow : Bool) (c : Cursor) : Cursor := skipFrom flow false c c.rest

/-- Whether the document ends here: at the end of the text or at a document mark. -/
def atEnd (c : Cursor) : Bool := c.rest.isEmpty || (c.column = 0 && isDocumentMark c.rest)

/-- Whether a character stands here as a token of its own. -/
def atMark (c : Cursor) (x : Char) : Bool :=
  match c.rest with
  | [] => false
  | y :: rest => y = x && endsToken rest

/-- Whether a character stands here. -/
def atChar (c : Cursor) (x : Char) : Bool := c.rest.head? = some x

/-- The greatest distance in bytes from the beginning of a key to its colon. -/
def keyLimit : Nat := 1024

/-- Whether what begins at a place can be a key with its colon at a later place: both on one line,
and not too far apart. -/
def beginsKey (start colon : Cursor) : Bool :=
  start.line = colon.line && colon.index ≤ start.index + keyLimit

end Cursor

end KotlinMetadata.Yaml
