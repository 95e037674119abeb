/-! Lines of a text. -/
namespace EntitySchema.Text

/-- A character that ends a line: the ASCII line and page controls, the three upper information
separators, the next-line control and the two Unicode separators. -/
def isLineEnd (c : Char) : Bool :=
  let n := c.toNat
  (10 ≤ n && n ≤ 13) || (28 ≤ n && n ≤ 30) || n == 0x85 || n == 0x2028 || n == 0x2029

def countLinesFrom (started : Bool) : List Char → Nat
  | [] => if started then 1 else 0
  | '\r' :: '\n' :: r => countLinesFrom false r + 1
  | c :: r => if isLineEnd c then countLinesFrom false r + 1 else countLinesFrom true r

/-- The number of lines; an end of line at the very end opens no further one. -/
def countLines (s : String) : Nat := countLinesFrom false s.toList

/-- All line ends written as one line feed, the way text files are read. -/
def unifyLineFeeds : List Char → List Char
  | [] => []
  | '\r' :: '\n' :: r => '\n' :: unifyLineFeeds r
  | c :: r => (if c = '\r' then '\n' else c) :: unifyLineFeeds r

/-- The text without a line feed at its very end; such a one hides no suffix and spoils no name. -/
def withoutLastFeed (s : List Char) : List Char :=
  if s.getLast? = some '\n' then s.dropLast else s

def splitAll (isSeparator : Char → Bool) : List Char → List (List Char)
  | [] => [[]]
  | c :: r =>
    if isSeparator c then [] :: splitAll isSeparator r
    else match splitAll isSeparator r with
      | piece :: rest => (c :: piece) :: rest
      | [] => [[c]]

end EntitySchema.Text
