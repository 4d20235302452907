import DocSync.Toml.Quoted
import DocSync.Toml.Scalar
import DocSync.Toml.Tree

/-!
# Reading a configuration document

A document of TOML 1.1 is read as a list of statements, one a line, and the statements then define
its table. Arrays and inline tables may be nested 80 levels deep, and a key may have 80 names.
-/
namespace DocSync.Toml

/-- How deep a single value or key may go. -/
def depthLimit : Nat := 80

def skipBlanks (cs : List Char) : List Char := cs.dropWhile isBlank

/-- A comment, if one starts here, up to the end of its line. -/
def comment? (cs : List Char) : Option (List Char) :=
  match cs with
  | '#' :: rest =>
    let after := rest.dropWhile isPlain
    match after with
    | [] => some []
    | _ => (lineBreak? after).map fun _ => after
  | _ => some cs

/-- What follows blanks, comments and line breaks. -/
def skipFiller (fuel : Nat) (cs : List Char) : Option (List Char) :=
  match fuel with
  | 0 => none
  | fuel + 1 => do
    let cs ← comment? (skipBlanks cs)
    match lineBreak? cs with
    | some rest => skipFiller fuel rest
    | none => some cs

def isBareKey (c : Char) : Bool := c.isAlphanum || c == '_' || c == '-'

/-- One name of a key. -/
def name? (cs : List Char) : Option (String × List Char) :=
  match cs with
  | c :: rest =>
    if c = '"' ∨ c = '\'' then Quoted.line c (rest.length + 1) [] rest
    else
      let bare := cs.takeWhile isBareKey
      if bare.isEmpty then none else some (String.ofList bare, cs.dropWhile isBareKey)
  | [] => none

/-- The names of a key, at most `limit`, separated by dots, and what follows the blanks after it. -/
def names? (limit : Nat) (cs : List Char) : Option (Key × List Char) :=
  match limit with
  | 0 => none
  | limit + 1 => do
    let (name, rest) ← name? (skipBlanks cs)
    match skipBlanks rest with
    | '.' :: rest =>
      let (key, rest) ← names? limit rest
      some ({ key with first := name :: key.first }, rest)
    | rest => some (⟨[], name⟩, rest)

def key? (cs : List Char) : Option (Key × List Char) := names? depthLimit cs

def isScalarChar (c : Char) : Bool :=
  c.isAlphanum || c == '_' || c == '+' || c == '-' || c == '.' || c == ':'

/-- A scalar. A date may be followed by a blank and a time. -/
def scalar? (cs : List Char) : Option (Toml × List Char) :=
  let token := cs.takeWhile isScalarChar
  let rest := cs.dropWhile isScalarChar
  let (token, rest) := match DateTime.date? token, rest with
    | some (_, []), ' ' :: c :: more =>
      if c.isDigit then
        (token ++ ' ' :: (c :: more).takeWhile isScalarChar, (c :: more).dropWhile isScalarChar)
      else (token, rest)
    | _, _ => (token, rest)
  (Scalar.ofToken? token).map fun v => (v, rest)

mutual

/-- A value; `depth` is how many levels of nesting are left. -/
def value (fuel depth : Nat) (cs : List Char) : Option (Toml × List Char) :=
  match fuel with
  | 0 => none
  | fuel + 1 =>
    match cs with
    | '"' :: _ | '\'' :: _ => (Quoted.value? cs).map fun (s, rest) => (.string s, rest)
    | '[' :: rest =>
      match depth with
      | 0 => none
      | depth + 1 => (elements fuel depth [] rest).map fun (items, rest) => (.array items, rest)
    | '\x7b' :: rest =>
      match depth with
      | 0 => none
      | depth + 1 =>
        match assignments fuel depth [] rest with
        | some (entries, rest) => (ofAssignments? entries).map fun t => (t, rest)
        | none => none
    | _ => scalar? cs

/-- The elements of an array up to its closing bracket; `done` holds those before, in reverse. -/
def elements (fuel depth : Nat) (done : List Toml) (cs : List Char) :
    Option (List Toml × List Char) :=
  match fuel with
  | 0 => none
  | fuel + 1 =>
    match skipFiller (cs.length + 1) cs with
    | none => none
    | some (']' :: rest) => some (done.reverse, rest)
    | some cs =>
      match value fuel depth cs with
      | none => none
      | some (item, rest) =>
        match skipFiller (rest.length + 1) rest with
        | some (',' :: rest) => elements fuel depth (item :: done) rest
        | some (']' :: rest) => some ((item :: done).reverse, rest)
        | _ => none

/-- The keys of an inline table up to its closing brace. -/
def assignments (fuel depth : Nat) (done : List (Key × Toml)) (cs : List Char) :
    Option (List (Key × Toml) × List Char) :=
  match fuel with
  | 0 => none
  | fuel + 1 =>
    match skipFiller (cs.length + 1) cs with
    | none => none
    | some ('\x7d' :: rest) => some (done.reverse, rest)
    | some cs =>
      match key? cs with
      | some (key, '=' :: rest) =>
        match value fuel depth (skipBlanks rest) with
        | none => none
        | some (item, rest) =>
          match skipFiller (rest.length + 1) rest with
          | some (',' :: rest) => assignments fuel depth ((key, item) :: done) rest
          | some ('\x7d' :: rest) => some (((key, item) :: done).reverse, rest)
          | _ => none
      | _ => none

end

/-- The statement at the start of a line that has one. -/
def statement? (cs : List Char) : Option (Statement × List Char) :=
  match cs with
  | '[' :: '[' :: rest =>
    match key? rest with
    | some (key, ']' :: ']' :: rest) => some (.arrayHeader key, rest)
    | _ => none
  | '[' :: rest =>
    match key? rest with
    | some (key, ']' :: rest) => some (.header key, rest)
    | _ => none
  | _ =>
    match key? cs with
    | some (key, '=' :: rest) =>
      let rest := skipBlanks rest
      (value (2 * rest.length + 2) depthLimit rest).map fun (v, rest) => (.assign key v, rest)
    | _ => none

/-- The statements of a text, one a line at most. -/
def statements (fuel : Nat) (done : List Statement) (cs : List Char) : Option (List Statement) :=
  match fuel with
  | 0 => none
  | fuel + 1 => do
    let cs ← skipFiller (cs.length + 1) cs
    if cs.isEmpty then some done.reverse
    else
      let (s, rest) ← statement? cs
      let rest ← comment? (skipBlanks rest)
      if rest.isEmpty then some (s :: done).reverse
      else
        let rest ← lineBreak? rest
        statements fuel (s :: done) rest

/-- Without the mark that some editors put in front of UTF-8 text. -/
def dropMark (cs : List Char) : List Char :=
  match cs with
  | '\uFEFF' :: rest => rest
  | _ => cs

/-- The table that a document stands for. -/
def ofText? (text : String) : Option Toml :=
  let cs := dropMark text.toList
  (statements (cs.length + 1) [] cs).bind ofStatements?

end DocSync.Toml
