import InlineStyle.Toml.Scalar

/-! The structure of TOML 1.0 documents: keys, arrays, tables in braces, and lines. The limits of depth are those of the
reader toml 0.8, and a text that it refuses is no document, with nothing said of the place. -/

namespace InlineStyle.Toml

open Reader

/-- Arrays and tables in braces nest less deep than this, and dotted keys have fewer parts. -/
def depthLimit : Nat := 80

def spaces : Reader Unit := do
  let _ ← run isSpace

def comment : Reader Unit := do
  char '#'
  let _ ← run isPlain

/-- Spaces, comments and line ends, as they may stand inside an array. -/
def blanks : Reader Unit := do
  let _ ← many ((fun _ => ()) <$> run1 isSpace <|> newline <|> comment)

def lineEnd : Reader Unit := newline <|> atEnd

/-- What may follow on the line of a header or value. -/
def restOfLine : Reader Unit := do
  spaces
  let _ ← optional comment
  lineEnd

def isBareKey (c : Char) : Bool := c.isAlphanum || c == '_' || c == '-'

def simpleKey : Reader Text := basicString <|> literalString <|> run1 isBareKey

def key : Reader (List Text) := do
  let path ← separated (spaces *> simpleKey <* spaces) '.'
  guard (path.length < depthLimit)
  return path

def pair (value : Reader Node) : Reader (List Text × Node) := do
  let path ← key
  char '='
  spaces
  return (path, ← value)

/-- Items between brackets. A comma may follow the last. -/
def array (item : Reader Node) : Reader Node := do
  char '['
  let items ← optional do
    let items ← separated (blanks *> item <* blanks) ','
    let _ ← optional (char ',')
    return items
  blanks
  char ']'
  return .array (items.getD [])

/-- Pairs between braces, on one line and without a comma at the end. -/
def bracedTable (value : Reader Node) : Reader Node := do
  char '\x7b'
  let pairs ← optional (separated (pair value <* spaces) ',')
  spaces
  char '\x7d'
  let entries ← Entries.insertAll (pairs.getD []) .braces []
  return .table .braces entries

/-- A value that holds arrays and tables in braces down to a depth. -/
def value : Nat → Reader Node
  | 0 => scalar
  | depth + 1 => scalar <|> array (value depth) <|> bracedTable (value depth)

inductive Line where
  | blank
  | pair (path : List Text) (node : Node)
  | header (path : List Text) (isItem : Bool)

def line : Reader Line :=
  newline *> pure .blank <|>
    (do
      comment
      lineEnd
      return .blank) <|>
    (do
      literally "[["
      let path ← key
      literally "]]"
      restOfLine
      return .header path true) <|>
    (do
      char '['
      let path ← key
      char ']'
      restOfLine
      return .header path false) <|>
    (do
      let (path, node) ← pair (value (depthLimit - 1))
      restOfLine
      return .pair path node)

def lines : Reader (List Line) := do
  spaces
  let found ← many (line <* spaces)
  atEnd
  return found

/-- The pairs above the first header, and the sections. -/
def sections : List Line → List (List Text × Node) × List Section
  | [] => ([], [])
  | .blank :: rest => sections rest
  | .pair path node :: rest =>
    let (pairs, parts) := sections rest
    ((path, node) :: pairs, parts)
  | .header path isItem :: rest =>
    let (pairs, parts) := sections rest
    ([], { path, isItem, pairs } :: parts)

/-- The entries of a document in their order, or `none` if the text is no TOML. One byte order mark may
stand in front. -/
def ofText? (text : Text) : Option Entries := do
  let (found, _) ← lines ((Text.after? ['\ufeff'] text).getD text)
  let (pairs, parts) := sections found
  let root ← Entries.insertAll pairs .header []
  parts.foldlM (fun root part => part.place root) root

end InlineStyle.Toml
