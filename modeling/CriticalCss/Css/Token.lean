/-!
# Tokens of a stylesheet

The pieces that the text of a stylesheet falls into. A `Token` stands for itself; a `Lexeme` is a
token or one of the brackets that enclose others. A name is kept as the characters that it
stands for, with its escapes resolved; a number as it was written.
-/

namespace CriticalCss.Css

/-- The three kinds of brackets. -/
inductive Bracket where
  | curly
  | square
  | round
deriving DecidableEq, Repr

namespace Bracket

/-- The character that opens a bracket. -/
def opening : Bracket → Char
  | curly => '\x7b'
  | square => '['
  | round => '('

/-- The character that closes a bracket. -/
def closing : Bracket → Char
  | curly => '\x7d'
  | square => ']'
  | round => ')'

end Bracket

/-- A token without parts. A string or an address that the end of the text cuts off is not
`closed`. -/
inductive Token where
  | whitespace (text : List Char)
  | comment (text : List Char)
  | ident (name : List Char)
  | atKeyword (name : List Char)
  | hash (name : List Char) (isIdentifier : Bool)
  | string (value : List Char) (closed : Bool)
  | url (value : List Char) (closed : Bool)
  | unicodeRange (first last : Nat)
  | number (digits : List Char)
  | percentage (digits : List Char)
  | dimension (digits unit : List Char)
  | literal (text : List Char)
  | badString
  | badUrl
  | unmatched (bracket : Bracket)
deriving DecidableEq, Repr

/-- A token, or the beginning or the end of a bracketed part. -/
inductive Lexeme where
  | token (t : Token)
  | opening (bracket : Bracket)
  | functionOpening (name : List Char)
  | closing (bracket : Bracket)
deriving DecidableEq, Repr

namespace Token

/-- The name of a token's kind, as messages show it. -/
def kind : Token → String
  | whitespace _ => "whitespace"
  | comment _ => "comment"
  | ident _ => "ident"
  | atKeyword _ => "at-keyword"
  | hash _ _ => "hash"
  | string _ _ => "string"
  | url _ _ => "url"
  | unicodeRange _ _ => "unicode-range"
  | number _ => "number"
  | percentage _ => "percentage"
  | dimension _ _ => "dimension"
  | literal _ => "literal"
  | badString | badUrl | unmatched _ => "error"

/-- The digits as written, of a token that begins with a number. -/
def digits? : Token → Option (List Char)
  | number digits | percentage digits | dimension digits _ => some digits
  | _ => none

end Token

end CriticalCss.Css
