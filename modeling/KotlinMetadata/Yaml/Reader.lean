/-
Reading configuration documents: mappings and sequences in block and in flow
style, plain and quoted scalars, comments. A key may be marked by `?`, and
then its colon may stand on a later line; it is a scalar like any other key.
Anchors, tags, literal and folded scalars and directives are not part of the
format and refused.

A reader takes the place before a node and gives the node with the place
before what follows it, blanks and comments passed over. Its fuel bounds the
number of steps; `Yaml.parse` takes it from the length of the text.
-/
import KotlinMetadata.Yaml.Cursor
import KotlinMetadata.Yaml.Scalar

namespace KotlinMetadata.Yaml

/-! ## Gaps

Blanks and line breaks inside a scalar. Blanks within a line are kept. Of a
run of line breaks the first is folded: alone it counts as a space, before
others it is left out; the blanks around line breaks are dropped. -/

/-- The blanks and line breaks since the last other character of a scalar. -/
structure Gap where
  /-- The blanks before any line break, the last first. -/
  blanks : List Char := []
  /-- Whether there was a line break. -/
  broken : Bool := false
  /-- The first line break, unless it was escaped. -/
  first : Option Char := none
  /-- The line breaks after the first, the last first. -/
  others : List Char := []

namespace Gap

/-- The gap with a blank more. -/
def blank (g : Gap) (c : Char) : Gap := if g.broken then g else { g with blanks := c :: g.blanks }

/-- The gap with a line break more. -/
def lineBreak (g : Gap) (c : Char) : Gap :=
  if g.broken then { g with others := c :: g.others } else { broken := true, first := some c }

/-- Whether there is nothing in the gap. -/
def isEmpty (g : Gap) : Bool := g.blanks.isEmpty && !g.broken

/-- What the gap stands for, the last character first. -/
def folded (g : Gap) : List Char :=
  if g.broken then
    match g.first with
    | none => g.others
    | some c => if c ≠ '\n' then g.others ++ [c] else if g.others.isEmpty then [' '] else g.others
  else g.blanks

end Gap

/-! ## Scalars -/

/-- Whether a character divides or closes flow collections. -/
def isFlowMark (c : Char) : Bool := c = ',' || c = '[' || c = ']' || c = '{' || c = '}'

/-- Whether a plain scalar may begin with the characters. -/
def beginsPlain (flow : Bool) : List Char → Bool
  | [] => false
  | '-' :: s => !endsToken s
  | '?' :: s => !flow && !endsToken s
  | ':' :: s => !flow && !endsToken s
  | c :: _ => !(isBlankChar c || isBreak c || "?:,[]\x7b\x7d#&*!|>'\"%@`".toList.contains c)

/-- Whether a character ends a plain scalar before the characters given. -/
def endsPlain (flow : Bool) (c : Char) (rest : List Char) : Bool :=
  (c = ':' && endsToken rest) || (flow && isFlowMark c)

/-- Whether a colon stands before a mark that cannot follow it within flow style. -/
def isStrayColon (flow : Bool) (c : Char) (rest : List Char) : Bool :=
  flow && c = ':' && rest.head?.any fun d => isFlowMark d || d = '?'

/-- Reads a plain scalar. Lines after the first belong to it as long as they are indented to the
column `floor` at least; `text` holds the characters read so far, the last first. The result is the
text, the gap after it and the place where it ends. -/
def plainText (flow : Bool) (floor : Nat) :
    Cursor → Gap → (text : List Char) → List Char → Option (List Char × Gap × Cursor)
  | c, gap, text, [] => some (text, gap, c)
  | c, gap, text, x :: rest =>
    let next := c.step x rest
    if isBreak x then plainText flow floor next (gap.lineBreak x) text rest
    else if isBlankChar x then
      if gap.broken && c.column < floor && x = '\t' then none
      else plainText flow floor next (gap.blank x) text rest
    else if !gap.isEmpty && ((!flow && c.column < floor) || c.atEnd || x = '#') then some (text, gap, c)
    else if isStrayColon flow x rest then none
    else if endsPlain flow x rest then some (text, gap, c)
    else plainText flow floor next {} (x :: gap.folded ++ text) rest

/-- Reads a scalar in single quotes after the opening one; a quote is written twice. The result is
the text and the place after it. -/
def singleQuoted : Cursor → Gap → (text : List Char) → List Char → Option (List Char × Cursor)
  | _, _, _, [] => none
  | c, gap, text, x :: rest =>
    let next := c.step x rest
    if c.atEnd then none
    else if isBreak x then singleQuoted next (gap.lineBreak x) text rest
    else if isBlankChar x then singleQuoted next (gap.blank x) text rest
    else if x = '\'' then
      match rest with
      | '\'' :: rest => singleQuoted (next.step '\'' rest) {} ('\'' :: gap.folded ++ text) rest
      | _ => some (gap.folded ++ text, next)
    else singleQuoted next {} (x :: gap.folded ++ text) rest

/-- The character of a one-letter escape. -/
def escapedChar? : Char → Option Char
  | '0' => some (Char.ofNat 0)
  | 'a' => some (Char.ofNat 7)
  | 'b' => some (Char.ofNat 8)
  | 't' => some '\t'
  | '\t' => some '\t'
  | 'n' => some '\n'
  | 'v' => some (Char.ofNat 11)
  | 'f' => some (Char.ofNat 12)
  | 'r' => some '\r'
  | 'e' => some (Char.ofNat 27)
  | ' ' => some ' '
  | '"' => some '"'
  | '/' => some '/'
  | '\\' => some '\\'
  | 'N' => some (Char.ofNat 0x85)
  | '_' => some (Char.ofNat 0xA0)
  | 'L' => some (Char.ofNat 0x2028)
  | 'P' => some (Char.ofNat 0x2029)
  | _ => none

/-- The character with a code of hexadecimal digits. -/
def charOfHex? (digits : List Char) : Option Char :=
  match ofBase? 16 digits with
  | some n => if n.isValidChar then some (Char.ofNat n) else none
  | none => none

/-- Reads a scalar in double quotes after the opening one. The result is the text and the place
after it. -/
def doubleQuoted : Cursor → Gap → (text : List Char) → List Char → Option (List Char × Cursor)
  | _, _, _, [] => none
  | c, gap, text, x :: rest =>
    let next := c.step x rest
    if c.atEnd then none
    else if isBreak x then doubleQuoted next (gap.lineBreak x) text rest
    else if isBlankChar x then doubleQuoted next (gap.blank x) text rest
    else if x = '"' then some (gap.folded ++ text, next)
    else if x = '\\' then
      let text := gap.folded ++ text
      match rest with
      | [] => none
      | 'x' :: a :: b :: rest =>
        match charOfHex? [a, b] with
        | some x => doubleQuoted (next.advance 3) {} (x :: text) rest
        | none => none
      | 'u' :: a :: b :: c :: d :: rest =>
        match charOfHex? [a, b, c, d] with
        | some x => doubleQuoted (next.advance 5) {} (x :: text) rest
        | none => none
      | 'U' :: a :: b :: c :: d :: e :: f :: g :: h :: rest =>
        match charOfHex? [a, b, c, d, e, f, g, h] with
        | some x => doubleQuoted (next.advance 9) {} (x :: text) rest
        | none => none
      | e :: rest =>
        let next := next.step e rest
        if isBreak e then doubleQuoted next { broken := true } text rest
        else
          match escapedChar? e with
          | some x => doubleQuoted next {} (x :: text) rest
          | none => none
    else doubleQuoted next {} (x :: gap.folded ++ text) rest

/-- Reads a scalar, in flow style or in block style. A document mark begins none. A key may begin
after it only behind a line break that a plain scalar leaves off at. -/
def readScalar (flow : Bool) (floor : Nat) (c : Cursor) : Option (Scalar × Cursor) :=
  match c.rest with
  | [] => none
  | x :: rest =>
    if x = '\'' then
      (singleQuoted (c.step x rest) {} [] rest).map fun (text, c) => (.quoted text, c.allowKey false)
    else if x = '"' then
      (doubleQuoted (c.step x rest) {} [] rest).map fun (text, c) => (.quoted text, c.allowKey false)
    else if !c.atEnd && beginsPlain flow c.rest then
      (plainText flow floor c {} [] c.rest).map fun (text, gap, c) => (.plain text, c.allowKey gap.broken)
    else none

/-! ## Flow style -/

/-- The place after the character here, blanks and comments passed over. -/
def Cursor.next (flow : Bool) (c : Cursor) : Cursor := (c.advance 1).skip flow

mutual
/-- Reads a node in flow style; it ends right before the place given. -/
def readFlow : (fuel : Nat) → (floor : Nat) → Cursor → Option (Yaml × Cursor)
  | 0, _, _ => none
  | fuel + 1, floor, c =>
    if c.atChar '[' then readFlowItems fuel floor [] (c.next true)
    else if c.atChar '{' then readFlowPairs fuel floor [] (c.next true)
    else (readScalar true floor c).map fun (s, c) => (s.value, c)
/-- Reads the items of a sequence up to its closing bracket; `acc` holds those before, the last
first. An item may be a single pair. -/
def readFlowItems : (fuel : Nat) → (floor : Nat) → (acc : List Yaml) → Cursor →
    Option (Yaml × Cursor)
  | 0, _, _, _ => none
  | fuel + 1, floor, acc, c =>
    if c.atChar ']' then some (.sequence acc.reverse, (c.advance 1).allowKey false)
    else
      match readFlowItem fuel floor c with
      | none => none
      | some (item, c) =>
        if c.atChar ',' then readFlowItems fuel floor (item :: acc) (c.next true)
        else if c.atChar ']' then readFlowItems fuel floor (item :: acc) c
        else none
/-- Reads an item of a sequence. -/
def readFlowItem : (fuel : Nat) → (floor : Nat) → Cursor → Option (Yaml × Cursor)
  | 0, _, _ => none
  | fuel + 1, floor, c =>
    let pair :=
      match readFlowPair fuel floor ']' c with
      | none => none
      | some (pair, c) => some (.mapping [pair], c)
    if c.atChar '?' then pair
    else
      match readFlow fuel floor c with
      | none => none
      | some (node, after) =>
        let colon := after.skip true
        if colon.atChar ':' then pair else some (node, colon)
/-- Reads the pairs of a mapping up to its closing brace; `acc` holds those before, the last
first. -/
def readFlowPairs : (fuel : Nat) → (floor : Nat) → (acc : List (String × Yaml)) → Cursor →
    Option (Yaml × Cursor)
  | 0, _, _, _ => none
  | fuel + 1, floor, acc, c =>
    if c.atChar '}' then some (.mapping acc.reverse, (c.advance 1).allowKey false)
    else
      match readFlowPair fuel floor '}' c with
      | none => none
      | some (pair, c) =>
        if c.atChar ',' then readFlowPairs fuel floor (pair :: acc) (c.next true)
        else if c.atChar '}' then readFlowPairs fuel floor (pair :: acc) c
        else none
/-- Reads a pair of a collection with a closing mark. The value may be missing, with its colon or
without; so may a marked key, which is empty then. -/
def readFlowPair : (fuel : Nat) → (floor : Nat) → (closing : Char) → Cursor →
    Option ((String × Yaml) × Cursor)
  | 0, _, _, _ => none
  | fuel + 1, floor, closing, c =>
    let marked := c.atChar '?'
    let c := if marked then c.next true else c
    if marked && (c.atChar ':' || c.atChar ',' || c.atChar closing) then
      readFlowValue fuel floor closing "" c
    else
      match readScalar true floor c with
      | none => none
      | some (key, after) =>
        let colon := after.skip true
        if colon.atChar ':' && !marked && !c.beginsKey colon then none
        else readFlowValue fuel floor closing key.text colon
/-- Reads what follows a key: a colon with a value or without, or nothing. -/
def readFlowValue : (fuel : Nat) → (floor : Nat) → (closing : Char) → (key : String) → Cursor →
    Option ((String × Yaml) × Cursor)
  | 0, _, _, _, _ => none
  | fuel + 1, floor, closing, key, c =>
    if !c.atChar ':' then some ((key, .null), c)
    else
      let value := c.next true
      if value.atChar ',' || value.atChar closing then some ((key, .null), value)
      else
        match readFlow fuel floor value with
        | none => none
        | some (node, after) => some ((key, node), after.skip true)
end

/-! ## Block style -/

mutual
/-- Reads a node in block style whose enclosing collection keeps to the columns below `floor`. -/
def readNode : (fuel : Nat) → (floor : Nat) → Cursor → Option (Yaml × Cursor)
  | 0, _, _ => none
  | fuel + 1, floor, c =>
    if c.atMark '-' then
      if c.keyAllowed then readEntries fuel c.column false [] c else none
    else if c.atMark '?' then
      if c.keyAllowed then readPairs fuel c.column [] c else none
    else if c.atChar '[' || c.atChar '{' then
      (readFlow fuel floor c).map fun (node, after) => (node, after.skip false)
    else
      match readScalar false floor c with
      | none => none
      | some (scalar, after) =>
        let colon := after.skip false
        if !colon.atMark ':' then some (scalar.value, colon)
        else if c.keyAllowed then readPairs fuel c.column [] c
        else none
/-- Reads the pairs of a mapping whose keys begin at a column; `acc` holds those before, the last
first. -/
def readPairs : (fuel : Nat) → (column : Nat) → (acc : List (String × Yaml)) → Cursor →
    Option (Yaml × Cursor)
  | 0, _, _, _ => none
  | fuel + 1, column, acc, c =>
    match if c.atMark '?' then readMarkedPair fuel column c else readPair fuel column c with
    | none => none
    | some (pair, c) =>
      let acc := pair :: acc
      if c.atEnd || c.column < column then some (.mapping acc.reverse, c)
      else if c.column = column then readPairs fuel column acc c
      else none
/-- Reads a pair whose key begins at a column and ends with its colon on the same line. -/
def readPair : (fuel : Nat) → (column : Nat) → Cursor → Option ((String × Yaml) × Cursor)
  | 0, _, _ => none
  | fuel + 1, column, c =>
    match readScalar false (column + 1) c with
    | none => none
    | some (key, after) =>
      let colon := after.skip false
      if !(colon.atMark ':' && c.keyAllowed && c.beginsKey colon) then none
      else
        match readPairValue fuel column (((colon.advance 1).allowKey false).skip false) with
        | none => none
        | some (value, c) => some ((key.text, value), c)
/-- Reads a pair whose key is marked at a column; its colon stands at the column too. Key and value
may be missing. -/
def readMarkedPair : (fuel : Nat) → (column : Nat) → Cursor → Option ((String × Yaml) × Cursor)
  | 0, _, _ => none
  | fuel + 1, column, c =>
    let begin := c.next false
    let key :=
      if begin.atEnd || begin.column ≤ column then some ("", begin)
      else (readScalar false (column + 1) begin).map fun (key, after) => (key.text, after.skip false)
    match if c.keyAllowed then key else none with
    | none => none
    | some (key, colon) =>
      if !(colon.column = column && colon.atMark ':') then some ((key, .null), colon)
      else if !colon.keyAllowed then none
      else
        match readPairValue fuel column (colon.next false) with
        | none => none
        | some (value, c) => some ((key, value), c)
/-- Reads the value of a pair whose key begins at a column: a node further right, or a sequence
at the column itself, or nothing. -/
def readPairValue : (fuel : Nat) → (column : Nat) → Cursor → Option (Yaml × Cursor)
  | 0, _, _ => none
  | fuel + 1, column, c =>
    if c.atEnd || c.column < column then some (.null, c)
    else if column < c.column then readNode fuel (column + 1) c
    else if c.atMark '-' then readEntries fuel column true [] c
    else some (.null, c)
/-- Reads the entries of a sequence whose marks stand at a column; `acc` holds those before, the
last first. A sequence that is the value of a key at its own column ends before the next key. -/
def readEntries : (fuel : Nat) → (column : Nat) → (underKey : Bool) → (acc : List Yaml) → Cursor →
    Option (Yaml × Cursor)
  | 0, _, _, _, _ => none
  | fuel + 1, column, underKey, acc, c =>
    if !(c.atMark '-' && c.keyAllowed) then
      if underKey then some (.sequence acc.reverse, c) else none
    else
      match readEntryValue fuel column (c.next false) with
      | none => none
      | some (item, c) =>
        let acc := item :: acc
        if c.atEnd || c.column < column then some (.sequence acc.reverse, c)
        else if c.column = column then readEntries fuel column underKey acc c
        else none
/-- Reads the node of an entry whose mark stands at a column. -/
def readEntryValue : (fuel : Nat) → (column : Nat) → Cursor → Option (Yaml × Cursor)
  | 0, _, _ => none
  | fuel + 1, column, c =>
    if c.atEnd || c.column ≤ column then some (.null, c) else readNode fuel (column + 1) c
end

/-! ## Documents -/

/-- What a text holds. -/
inductive Document where
  /-- Nothing but blanks, comments and document marks. -/
  | empty
  | node (root : Yaml)

/-- Whether containers are nested no deeper than a document may nest them. -/
def Document.isShallow : Document → Bool
  | .empty => true
  | .node root => root.depth ≤ 128

/-- Whether a character may stand in a document. -/
def isDocumentChar (c : Char) : Bool :=
  let n := c.toNat
  n = 0x09 || n = 0x0A || n = 0x0D || (0x20 ≤ n && n ≤ 0x7E) || n = 0x85
    || (0xA0 ≤ n && n ≤ 0xFFFD) || 0x10000 ≤ n

/-- The characters with every line end written as a line feed. -/
def unifyBreaks : List Char → List Char
  | [] => []
  | '\r' :: '\n' :: s => '\n' :: unifyBreaks s
  | c :: s => (if c = '\r' || c.toNat = 0x85 then '\n' else c) :: unifyBreaks s

/-- The place after the document mark here, blanks and comments passed over. -/
def Cursor.afterMark (c : Cursor) : Cursor := ((c.advance 3).allowKey false).skip false

/-- Whether the mark that begins a document stands here. -/
def Cursor.atBeginMark (c : Cursor) : Bool := c.column = 0 && c.atChar '-' && isDocumentMark c.rest

/-- Whether the mark that ends a document stands here. -/
def Cursor.atEndMark (c : Cursor) : Bool := c.column = 0 && c.atChar '.' && isDocumentMark c.rest

/-- Whether only document ends, blanks and comments are left. -/
def isTrailer : (fuel : Nat) → Cursor → Bool
  | 0, _ => false
  | fuel + 1, c => c.rest.isEmpty || (c.atEndMark && isTrailer fuel c.afterMark)

/-- Reads a document, after the mark that begins it, if any. Without the mark it has a node. -/
def readDocument (fuel : Nat) (c : Cursor) : Option (Document × Cursor) :=
  let node (c : Cursor) : Option (Document × Cursor) :=
    (readNode fuel 0 c).map fun (root, after) => (.node root, after)
  if c.atBeginMark then
    if c.afterMark.atEnd then some (.empty, c.afterMark) else node c.afterMark
  else if c.rest.isEmpty then some (.empty, c)
  else if c.atEnd then none
  else node c

/-- What a text holds, if it is a document. -/
def parse (text : String) : Option Document :=
  if !text.toList.all isDocumentChar then none
  else
    let s := unifyBreaks text.toList
    let fuel := 4 * s.length + 8
    match readDocument fuel (({ rest := s } : Cursor).skip false) with
    | none => none
    | some (document, after) =>
      if isTrailer fuel after && document.isShallow then some document else none

end KotlinMetadata.Yaml
