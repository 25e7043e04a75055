/-!
# Blanks, words and lines

The characters that separate words are those with the Unicode property `White_Space`. A text is
cut at such characters into words and at line feeds into lines; `trim` drops blanks at both ends.
Everything is a function on lists of characters; the functions on `String` wrap them.
-/

namespace FleetScaling.Text

/-- Whether a character lies in one of the closed ranges of code points. -/
def inRanges (ranges : List (Nat × Nat)) (c : Char) : Bool :=
  ranges.any fun range => range.1 ≤ c.toNat && c.toNat ≤ range.2

/-! ## Blanks -/

/-- The code points with the property `White_Space`. -/
def blankRanges : List (Nat × Nat) :=
  [(0x9, 0xd), (0x20, 0x20), (0x85, 0x85), (0xa0, 0xa0), (0x1680, 0x1680), (0x2000, 0x200a),
   (0x2028, 0x2029), (0x202f, 0x202f), (0x205f, 0x205f), (0x3000, 0x3000)]

/-- A blank separates words and is dropped at the ends of a trimmed text. -/
def isBlank (c : Char) : Bool := inRanges blankRanges c

/-- The blanks that formats with lines allow within one. -/
def isSpace (c : Char) : Bool := c = ' ' || c = '\t'

/-- The text without the spaces and tabs in front. -/
def dropSpaces (cs : List Char) : List Char := cs.dropWhile isSpace

/-- The text without its leading blanks. -/
def dropBlanks (cs : List Char) : List Char := cs.dropWhile isBlank

/-- The text without its leading and trailing blanks. -/
def trimmed (cs : List Char) : List Char :=
  (dropBlanks (dropBlanks cs).reverse).reverse

/-- The text without its leading and trailing blanks. -/
def trim (s : String) : String := String.ofList (trimmed s.toList)

/-! ## Pieces -/

/-- The pieces of a text between the characters that satisfy `p`; one more than there are such. -/
def pieces (p : Char → Bool) : List Char → List (List Char)
  | [] => [[]]
  | c :: cs =>
    if p c then [] :: pieces p cs
    else match pieces p cs with
      | [] => [[c]]
      | piece :: rest => (c :: piece) :: rest

/-- The maximal runs of non-blank characters, in order. -/
def words (cs : List Char) : List (List Char) :=
  (pieces isBlank cs).filter (· ≠ [])

/-- A terminated line without the carriage return before its line feed. -/
def dropReturn (line : List Char) : List Char :=
  if line.getLast? = some '\r' then line.dropLast else line

/-- The lines of a text. Each line feed ends one, with the carriage return before it; what
follows the last line feed is a line of its own unless it is empty. -/
def lines (cs : List Char) : List (List Char) :=
  let parts := pieces (· == '\n') cs
  parts.dropLast.map dropReturn ++ (parts.getLast?.filter (· ≠ [])).toList

/-! ## Parts of a text -/

/-- How many bytes some characters take in UTF-8. -/
def byteSize (cs : List Char) : Nat := cs.foldl (fun size c => size + c.utf8Size) 0

/-- Whether `needle` occurs in `text` as consecutive characters. -/
def occursIn (needle : List Char) : List Char → Bool
  | [] => needle.isEmpty
  | c :: cs => needle.isPrefixOf (c :: cs) || occursIn needle cs

/-- Whether the first text occurs in the second. -/
def occurs (needle text : String) : Bool := occursIn needle.toList text.toList

/-- Whether a text ends in another. -/
def endsIn (ending text : String) : Bool := ending.toList.isSuffixOf text.toList

/-- The texts with a separator between neighbours. -/
def joined (separator : String) (texts : List String) : String :=
  separator.intercalate texts

end FleetScaling.Text
