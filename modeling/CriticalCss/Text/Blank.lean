/-!
# White space in running text

The characters that count as white space when a text is trimmed or cut into words, and the
two operations built on them. The class is the one of the Unicode standard's white space
together with the four information separators U+001C to U+001F, so it is wider than the three
blanks that separate tokens of a stylesheet.
-/

namespace CriticalCss.Text

/-- White space, for trimming and for cutting a text into words. -/
def isBlank (c : Char) : Bool :=
  let n := c.toNat
  (0x09 ≤ n && n ≤ 0x0D) || (0x1C ≤ n && n ≤ 0x20) || n == 0x85 || n == 0xA0 || n == 0x1680 ||
    (0x2000 ≤ n && n ≤ 0x200A) || n == 0x2028 || n == 0x2029 || n == 0x202F || n == 0x205F ||
    n == 0x3000

/-- The text without the white space at its end. -/
def trimRight (cs : List Char) : List Char :=
  (cs.reverse.dropWhile isBlank).reverse

/-- The text without the white space at both ends. -/
def trim (cs : List Char) : List Char :=
  trimRight (cs.dropWhile isBlank)

/-- Cuts a list at the elements that satisfy `p`, which belong to no piece. A list without such
an element is one piece. -/
def pieces {α : Type} (p : α → Bool) : List α → List (List α)
  | [] => [[]]
  | a :: rest =>
    if p a then [] :: pieces p rest
    else
      match pieces p rest with
      | [] => [[a]]
      | piece :: others => (a :: piece) :: others

/-- The maximal runs of characters that are not white space. -/
def words (cs : List Char) : List (List Char) :=
  (pieces isBlank cs).filter (!·.isEmpty)

/-- The text with every run of white space replaced by one space, and none at the ends. -/
def collapse (cs : List Char) : List Char :=
  [' '].intercalate (words cs)

/-- A text of white space only, the empty text included. -/
def isBlankText (cs : List Char) : Bool :=
  cs.all isBlank

def trimmed (s : String) : String :=
  String.ofList (trim s.toList)

/-- If `lead` starts the text, the rest of the text. -/
def dropLead? {α : Type} [BEq α] (lead cs : List α) : Option (List α) :=
  if lead.isPrefixOf cs then some (cs.drop lead.length) else none

/-- `part` occurs somewhere in the text. -/
def contains (part : List Char) : List Char → Bool
  | [] => part.isEmpty
  | c :: rest => part.isPrefixOf (c :: rest) || contains part rest

theorem pieces_ne_nil {α : Type} (p : α → Bool) (as : List α) : pieces p as ≠ [] := by
  cases as with
  | nil => simp [pieces]
  | cons a rest =>
    simp only [pieces]
    split
    · simp
    · split <;> simp

end CriticalCss.Text
