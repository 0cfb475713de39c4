/-!
# Values that were checked

Reading options never stops at the first problem. `Checked` holds either a value or all the
problems that were found, each with the place it was found at; two checked values combine so
that the problems of the first stand before those of the second.
-/

namespace CriticalCss

/-- The value is not of a known profile of devices. -/
structure UnknownProfile where
  profile : String
deriving DecidableEq, Repr

def UnknownProfile.message (e : UnknownProfile) : String :=
  "unknown device profile '" ++ e.profile ++
    "', expected one of ['desktop', 'mobile', 'tablet']"

/-- What is wrong with a value. -/
inductive Complaint where
  | missing
  | unknownField
  | keyNotText
  | notText
  | notList
  | tooFew (atLeast : Nat)
  | notWhole
  | fractional
  | notWholeText
  | oversized
  | notFinite
  | notNumber
  | notNumberText
  | notFlag
  | notFlagText
  | notPositive
  | negative
  | notFunction
  | notObject (alternative : String)
  | urlsNotList
  | noUrls
  | needsText (field typeName : String)
  | unknownProfile (cause : UnknownProfile)
deriving DecidableEq, Repr

namespace Complaint

def message : Complaint → String
  | missing => "Field required"
  | unknownField => "Extra inputs are not permitted"
  | keyNotText => "Keys should be strings"
  | notText => "Input should be a valid string"
  | notList => "Input should be a valid list"
  | tooFew atLeast =>
    "List should have at least " ++ toString atLeast ++
      (if atLeast = 1 then " item" else " items") ++ " after validation, not 0"
  | notWhole => "Input should be a valid integer"
  | fractional => "Input should be a valid integer, got a number with a fractional part"
  | notWholeText => "Input should be a valid integer, unable to parse string as an integer"
  | oversized => "Unable to parse input string as an integer, exceeded maximum size"
  | notFinite => "Input should be a finite number"
  | notNumber => "Input should be a valid number"
  | notNumberText => "Input should be a valid number, unable to parse string as a number"
  | notFlag => "Input should be a valid boolean"
  | notFlagText => "Input should be a valid boolean, unable to interpret input"
  | notPositive => "Input should be greater than 0"
  | negative => "Input should be greater than or equal to 0"
  | notFunction => "Input should be callable"
  | notObject alternative => "Input should be a valid dictionary or " ++ alternative
  | urlsNotList => "Value error, urls not a list"
  | noUrls => "Value error, no urls to check, insert at least one url"
  | needsText field typeName =>
    "Value error, " ++ field ++ " needs to be a string, got " ++ typeName
  | unknownProfile cause => "Value error, " ++ cause.message

end Complaint

/-- A complaint about the value at a place: the field names and indices that lead to it. -/
structure Problem where
  location : List String
  complaint : Complaint
deriving DecidableEq, Repr

namespace Problem

/-- The place in one text. -/
def place (p : Problem) : String :=
  ".".intercalate p.location

/-- Place and wording. -/
def message (p : Problem) : String :=
  p.place ++ ": " ++ p.complaint.message

/-- The problem as seen from a value that holds the other one under `key`. -/
def within (key : String) (p : Problem) : Problem :=
  { p with location := key :: p.location }

end Problem

/-- A value, or the problems that keep it from being one. -/
inductive Checked (α : Type) where
  | good (value : α)
  | bad (problems : List Problem)
deriving DecidableEq, Repr

namespace Checked

variable {α β : Type}

def fail (complaint : Complaint) : Checked α :=
  bad [⟨[], complaint⟩]

protected def map (f : α → β) : Checked α → Checked β
  | good a => good (f a)
  | bad problems => bad problems

/-- Goes on with a value; without one its problems stay. -/
protected def andThen (x : Checked α) (f : α → Checked β) : Checked β :=
  match x with
  | good a => f a
  | bad problems => bad problems

/-- Both values, or the problems of both. -/
protected def seq (f : Checked (α → β)) (x : Checked α) : Checked β :=
  match f, x with
  | good f, good a => good (f a)
  | good _, bad problems => bad problems
  | bad problems, good _ => bad problems
  | bad problems, bad others => bad (problems ++ others)

instance : Applicative Checked where
  pure := good
  map := Checked.map
  seq f x := Checked.seq f (x ())

/-- The checked value as the part of another one, under `key`. -/
def within (key : String) : Checked α → Checked α
  | good a => good a
  | bad problems => bad (problems.map (·.within key))

/-- All the values, or the problems of all. -/
def sequence : List (Checked α) → Checked (List α)
  | [] => good []
  | x :: rest => List.cons <$> x <*> sequence rest

def toExcept : Checked α → Except (List Problem) α
  | good a => .ok a
  | bad problems => .error problems

end Checked

end CriticalCss
