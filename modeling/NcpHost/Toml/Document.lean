import NcpHost.Toml.Moment
import NcpHost.Toml.Quoted
import NcpHost.Toml.Value

/-! Documents: lines that open tables and lines that assign values. Reading has
two steps, the text into sections and the sections into one table; the first
knows the form of a document, the second which tables may be added to. -/
namespace NcpHost.Toml

def isBare (c : Char) : Bool :=
  ('a' ≤ c && c ≤ 'z') || ('A' ≤ c && c ≤ 'Z') || ('0' ≤ c && c ≤ '9') || c = '-' || c = '_'

/-- One part of a key. -/
def part (text : List Char) : Option (String × List Char) :=
  match text with
  | '"' :: _ | '\'' :: _ =>
    (Quoted.line text).map fun (content, rest) => (String.ofList content, rest)
  | _ =>
    match text.takeWhile isBare with
    | [] => none
    | written => some (String.ofList written, text.dropWhile isBare)

/-- Brackets may be nested less deep than this, and keys have fewer parts. -/
def maxDepth : Nat := 80

/-- At most `limit` parts with dots between them, blanks around each. -/
def parts : (limit : Nat) → Reader (List String)
  | 0, _ => none
  | limit + 1, text => do
    let (first, rest) ← part (skipBlanks text)
    match skipBlanks rest with
    | '.' :: rest => do
      let (more, rest) ← parts limit rest
      some (first :: more, rest)
    | rest => some ([first], rest)

def path : Reader (List String) := parts (maxDepth - 1)

def word (expected : String) (value : Value) (text : List Char) : Option (Value × List Char) :=
  if expected.toList.isPrefixOf text then some (value, text.drop expected.length) else none

def numeric (text : List Char) : Option (Value × List Char) :=
  match Moment.any text with
  | some rest => some (.moment, rest)
  | none =>
    match Number.float text with
    | some rest => some (.float, rest)
    | none => (Number.integer text).map fun (number, rest) => (.integer number, rest)

/-- Values that contain no others. -/
def scalar (text : List Char) : Option (Value × List Char) :=
  match text with
  | [] => none
  | c :: _ =>
    if c = '"' ∨ c = '\'' then
      (Quoted.any text).map fun (content, rest) => (.text (String.ofList content), rest)
    else if c = 't' then word "true" (.boolean true) text
    else if c = 'f' then word "false" (.boolean false) text
    else if c = 'i' then word "inf" .float text
    else if c = 'n' then word "nan" .float text
    else if c = '+' ∨ c = '-' ∨ Number.isDigit c then numeric text
    else none

mutual

/-- A value at some depth of nesting. -/
def value : (fuel depth : Nat) → Reader Value
  | 0, _, _ => none
  | fuel + 1, depth, text =>
    match text with
    | '[' :: rest =>
      if depth + 1 < maxDepth then do
        let (items, rest) ← elements fuel (depth + 1) rest
        some (.array items, rest)
      else none
    | '\x7b' :: rest =>
      if depth + 1 < maxDepth then do
        let (assignments, rest) ←
          match skipBlanks rest with
          | '\x7d' :: rest => some ([], rest)
          | rest => members fuel (depth + 1) rest
        let entries ← Entries.assignAll [] assignments
        some (.table .inline entries, rest)
      else none
    | text => scalar text

/-- The elements of an array up to its closing bracket. -/
def elements : (fuel depth : Nat) → Reader (List Value)
  | 0, _, _ => none
  | fuel + 1, depth, text => do
    match ← skipLines false text with
    | ']' :: rest => some ([], rest)
    | text => do
      let (first, rest) ← value fuel depth text
      match ← skipLines false rest with
      | ']' :: rest => some ([first], rest)
      | ',' :: rest => do
        let (more, rest) ← elements fuel depth rest
        some (first :: more, rest)
      | _ => none

/-- The assignments of a table between braces, at least one, up to the closing
brace. -/
def members : (fuel depth : Nat) → Reader (List (List String × Value))
  | 0, _, _ => none
  | fuel + 1, depth, text => do
    let (path, rest) ← path text
    let rest ← exactly '=' rest
    let (given, rest) ← value fuel depth (skipBlanks rest)
    match skipBlanks rest with
    | '\x7d' :: rest => some ([(path, given)], rest)
    | ',' :: rest => do
      let (more, rest) ← members fuel depth rest
      some ((path, given) :: more, rest)
    | _ => none

end

inductive Header where
  | table (path : List String)
  /-- Opens another table of an array. -/
  | element (path : List String)
  deriving DecidableEq, Repr

/-- A line of a document, comments and empty lines apart. -/
inductive Statement where
  | opening (header : Header)
  | assignment (path : List String) (given : Value)

/-- After the opening bracket. -/
def header : Reader Header
  | '[' :: rest => do
    let (path, rest) ← path rest
    match rest with
    | ']' :: ']' :: rest => some (.element path, rest)
    | _ => none
  | text => do
    let (path, rest) ← path text
    let rest ← exactly ']' rest
    some (.table path, rest)

/-- One line that is neither empty nor a comment; `fuel` bounds the values in it. -/
def statement (fuel : Nat) (text : List Char) : Option (Statement × List Char) :=
  match text with
  | '[' :: rest => do
    let (header, rest) ← header rest
    let rest ← lineEnd? rest
    some (.opening header, rest)
  | _ => do
    let (path, rest) ← path text
    let rest ← exactly '=' rest
    let (given, rest) ← value fuel 0 (skipBlanks rest)
    let rest ← lineEnd? rest
    some (.assignment path given, rest)

def statements : (fuel : Nat) → List Char → Option (List Statement)
  | 0, _ => none
  | fuel + 1, text =>
    match skipBlanks text with
    | [] => some []
    | '#' :: rest => (lineEnd? ('#' :: rest)).bind (statements fuel)
    | '\n' :: rest => statements fuel rest
    | '\r' :: '\n' :: rest => statements fuel rest
    | text => do
      let (first, rest) ← statement fuel text
      let later ← statements fuel rest
      some (first :: later)

abbrev Assignments := List (List String × Value)

/-- A header, none at the top of the document, and the assignments under it. -/
structure Section where
  header : Option Header := none
  assignments : Assignments := []

/-- Assignments before the first header, and the sections after it. -/
def sections : List Statement → Assignments × List Section
  | [] => ([], [])
  | .assignment path given :: rest =>
    let (top, later) := sections rest
    ((path, given) :: top, later)
  | .opening header :: rest =>
    let (own, later) := sections rest
    ([], { header := some header, assignments := own } :: later)

/-- The table that a section's header opens. A table that was only implied may be
opened, any other only once. -/
def Section.open? (assignments : Assignments) : Header → Option Value → Option Value
  | .table _, none => (Entries.assignAll [] assignments).map (.table .header)
  | .table _, some (.table .implied inner) =>
    (Entries.assignAll inner assignments).map (.table .header)
  | .element _, none => (Entries.assignAll [] assignments).map fun entries => .tables [entries]
  | .element _, some (.tables elements) =>
    (Entries.assignAll [] assignments).map fun entries => .tables (elements ++ [entries])
  | _, some _ => none

def Header.path : Header → List String
  | .table path => path
  | .element path => path

def Section.addTo? (part : Section) (root : Entries) : Option Entries :=
  match part.header with
  | none => Entries.assignAll root part.assignments
  | some header => root.update (Section.open? part.assignments header) header.path

/-- The table that a document describes. -/
def Entries.ofStatements? (lines : List Statement) : Option Entries :=
  let (top, later) := sections lines
  ({ assignments := top } :: later).foldlM (fun root part => part.addTo? root) []

/-- Reads a whole document; a byte order mark may come first. -/
def Entries.ofText? (text : List Char) : Option Entries :=
  let text := if text.head? = some '\uFEFF' then text.tail else text
  (statements (text.length + 1) text).bind Entries.ofStatements?

end NcpHost.Toml
