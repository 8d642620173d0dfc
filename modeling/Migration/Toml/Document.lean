import Migration.Toml.Scalar
import Migration.Toml.Table

/-!
# TOML documents

A document is read line by line. A line is empty, opens a table by a header, or gives a key its
value; a comment may end it. Values nest in arrays and in tables in braces, up to a depth of 80, and
may go over several lines there. A key has at most 80 parts between its dots.

The reading functions give back what they read and the text that follows, or nothing if the text is
no TOML. Those that call each other count down a supply of steps, which is set to more than the
length of the text: every step takes at least one character.
-/

namespace Migration.Toml

/-- The text without spaces and tabs at its front. -/
def dropGap (text : List Char) : List Char := text.dropWhile isGap

/-- What follows blanks, line breaks and comments at the front of a text; `inComment` if it starts
    in a comment. -/
def dropSpace? : (inComment : Bool) → List Char → Option (List Char)
  | _, [] => some []
  | _, '\n' :: rest => dropSpace? false rest
  | _, '\r' :: '\n' :: rest => dropSpace? false rest
  | true, c :: rest => if isTextChar c then dropSpace? true rest else none
  | false, '#' :: rest => dropSpace? true rest
  | false, c :: rest => if isGap c then dropSpace? false rest else some (c :: rest)

/-- What follows the line that a text starts in, if only a gap and a comment are left of it. -/
def endLine? : (inComment : Bool) → List Char → Option (List Char)
  | _, [] => some []
  | _, '\n' :: rest => some rest
  | _, '\r' :: '\n' :: rest => some rest
  | true, c :: rest => if isTextChar c then endLine? true rest else none
  | false, '#' :: rest => endLine? true rest
  | false, c :: rest => if isGap c then endLine? false rest else none

/-- Whether a character may stand in a key without quotes. -/
def isKeyChar (c : Char) : Bool := c.isAlphanum || c == '_' || c == '-'

/-- A key without dots. -/
def readKey? (text : List Char) : Option (String × List Char) :=
  match Quoted.readLine? text with
  | some (key, rest) => some (String.ofList key, rest)
  | none =>
    let key := text.takeWhile isKeyChar
    if key.isEmpty then none else some (String.ofList key, text.dropWhile isKeyChar)

/-- How deep values may nest, and how many parts a key may have. -/
def maxDepth : Nat := 80

/-- A key of at most `parts` parts with dots between them, and what follows it and a gap. -/
def readParts? : (parts : Nat) → List Char → Option (List String × List Char)
  | 0, _ => none
  | parts + 1, text => do
    let (key, rest) ← readKey? text
    match dropGap rest with
    | '.' :: rest =>
      let (path, rest) ← readParts? parts (dropGap rest)
      return (key :: path, rest)
    | rest => return ([key], rest)

/-- A key with its dots, and what follows it and a gap. -/
def readPath? (text : List Char) : Option (List String × List Char) := readParts? maxDepth text

mutual

/-- A value that may nest to a depth of `depth`. -/
def readValue? : (steps depth : Nat) → List Char → Option (Value × List Char)
  | 0, _, _ => none
  | steps + 1, depth, '[' :: rest =>
    if depth = 0 then none
    else (readItems? steps (depth - 1) rest).map fun (items, rest) => (.array false items, rest)
  | steps + 1, depth, '{' :: rest =>
    if depth = 0 then none
    else (readEntries? steps (depth - 1) ⟨.inline, []⟩ rest).map fun (table, rest) =>
      (table.toValue, rest)
  | _ + 1, _, text =>
    match text with
    | '"' :: _ => (Quoted.read? text).map fun (s, rest) => (.string (String.ofList s), rest)
    | '\'' :: _ => (Quoted.read? text).map fun (s, rest) => (.string (String.ofList s), rest)
    | _ => Scalar.read? text

/-- The items of an array up to its closing bracket. -/
def readItems? : (steps depth : Nat) → List Char → Option (List Value × List Char)
  | 0, _, _ => none
  | steps + 1, depth, text => do
    match ← dropSpace? false text with
    | ']' :: rest => return ([], rest)
    | text =>
      let (item, rest) ← readValue? steps depth text
      match ← dropSpace? false rest with
      | ',' :: rest =>
        let (items, rest) ← readItems? steps depth rest
        return (item :: items, rest)
      | ']' :: rest => return ([item], rest)
      | _ => none

/-- The entries of a table in braces up to its closing brace, added to those before. Line breaks and
    comments may stand between any two parts of an entry. -/
def readEntries? : (steps depth : Nat) → Table → List Char → Option (Table × List Char)
  | 0, _, _, _ => none
  | steps + 1, depth, table, text => do
    match ← dropSpace? false text with
    | '}' :: rest => return (table, rest)
    | text =>
      let (path, rest) ← readPath? text
      let rest ← Scalar.expect? '=' (← dropSpace? false rest)
      let (value, rest) ← readValue? steps depth (← dropSpace? false rest)
      let table ← table.insert? path value
      match ← dropSpace? false rest with
      | ',' :: rest => readEntries? steps depth table rest
      | '}' :: rest => return (table, rest)
      | _ => none

end

/-- A document that is being read: its tables, and the header that the line is under. -/
structure Document where
  table : Table := ⟨.header, []⟩
  header : List String := []

/-- The document after a line with a header, and what follows the header. -/
def readHeader? (document : Document) (text : List Char) :
    Option (Document × List Char) :=
  match text with
  | '[' :: '[' :: rest => do
    let (path, rest) ← readPath? (dropGap rest)
    let rest ← Scalar.expect? ']' rest
    let rest ← Scalar.expect? ']' rest
    return (⟨← document.table.openItem? path, path⟩, rest)
  | _ => do
    let rest ← Scalar.expect? '[' text
    let (path, rest) ← readPath? (dropGap rest)
    let rest ← Scalar.expect? ']' rest
    return (⟨← document.table.openTable? path, path⟩, rest)

/-- The document after a line with a key and its value, and what follows the value. -/
def readPair? (steps : Nat) (document : Document) (text : List Char) :
    Option (Document × List Char) := do
  let (path, rest) ← readPath? text
  let rest ← Scalar.expect? '=' rest
  let (value, rest) ← readValue? steps maxDepth (dropGap rest)
  let table ← document.table.insertBelow? document.header path value
  return ({ document with table }, rest)

/-- The document after all lines of a text. -/
def readLines? : (steps : Nat) → Document → List Char → Option Document
  | 0, _, _ => none
  | steps + 1, document, text => do
    match ← dropSpace? false text with
    | [] => return document
    | c :: rest =>
      let (document, rest) ←
        if c = '[' then readHeader? document (c :: rest)
        else readPair? steps document (c :: rest)
      readLines? steps document (← endLine? false rest)

/-- The table of a document, unless the text is no TOML. A byte order mark at the front is passed
    over. -/
def parse? (text : String) : Option Table :=
  let text := match text.toList with
    | '\ufeff' :: rest => rest
    | text => text
  (readLines? (text.length + 2) {} text).map Document.table

end Migration.Toml
