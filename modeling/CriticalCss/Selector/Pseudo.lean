import CriticalCss.Text.Blank

/-!
# Pseudo parts of selectors

Some pseudo parts of a selector never match an element of their own but style one that matches
the rest of the selector. They are cut off before the page is asked about the selector. The
pseudo parts of single browsers are such parts, too. A selector that consists of pseudo parts
only is not asked about; `:root` is an exception, for it matches the element of the document.
-/

namespace CriticalCss.Selector

/-- The pseudo parts that style an element which matches the rest. -/
def stylingPseudos : List (List Char) :=
  ["after", "before", "first-line", "first-letter", "selection", "visited"].map String.toList

/-- The pseudo part of the element of the document. -/
def rootPseudo : List Char := "root".toList

/-- The text behind one or two colons and the name, if it begins so. Two colons come first. -/
def dropNamed? (name cs : List Char) : Option (List Char) :=
  (Text.dropLead? (':' :: ':' :: name) cs).or (Text.dropLead? (':' :: name) cs)

/-- A character of the name of a browser's pseudo part. -/
def isVendorChar (c : Char) : Bool :=
  ('a' ≤ c && c ≤ 'z') || c == '-'

/-- The text behind a browser's pseudo part: one or two colons, a hyphen and a run of small
letters and hyphens. -/
def dropVendor? (cs : List Char) : Option (List Char) :=
  (dropNamed? ['-'] cs).map (·.dropWhile isVendorChar)

/-- The text behind a pseudo part that styles an element. -/
def dropStyling? (cs : List Char) : Option (List Char) :=
  stylingPseudos.findSome? fun name => dropNamed? name cs

/-- The text behind the pseudo part of the document's element. -/
def dropRoot? (cs : List Char) : Option (List Char) :=
  dropNamed? rootPseudo cs

theorem length_lt_of_dropLead? {lead cs rest : List Char} (nonempty : lead ≠ [])
    (h : Text.dropLead? lead cs = some rest) : rest.length < cs.length := by
  unfold Text.dropLead? at h
  split at h
  · rename_i starts
    cases h
    have := (List.isPrefixOf_iff_prefix.1 starts).length_le
    have := List.length_pos_iff.2 nonempty
    simp
    omega
  · cases h

theorem length_lt_of_dropNamed? {name cs rest : List Char} (h : dropNamed? name cs = some rest) :
    rest.length < cs.length := by
  unfold dropNamed? at h
  rcases Option.or_eq_some_iff.1 h with h | ⟨-, h⟩ <;>
    exact length_lt_of_dropLead? (by simp) h

theorem length_lt_of_dropVendor? {cs rest : List Char} (h : dropVendor? cs = some rest) :
    rest.length < cs.length := by
  obtain ⟨after, named, rfl⟩ := Option.map_eq_some_iff.1 h
  have := length_lt_of_dropNamed? named
  have := (List.dropWhile_sublist (l := after) isVendorChar).length_le
  omega

theorem length_lt_of_dropStyling? {cs rest : List Char} (h : dropStyling? cs = some rest) :
    rest.length < cs.length := by
  obtain ⟨_, _, named⟩ := List.exists_of_findSome?_eq_some h
  exact length_lt_of_dropNamed? named

/-- Cuts every part that `drop?` recognises out of the text, from left to right. -/
def erase (drop? : List Char → Option (List Char))
    (shorter : ∀ {cs rest}, drop? cs = some rest → rest.length < cs.length) :
    List Char → List Char
  | [] => []
  | c :: cs =>
    match _found : drop? (c :: cs) with
    | some rest => erase drop? shorter rest
    | none => c :: erase drop? shorter cs
termination_by cs => cs.length
decreasing_by
  · exact shorter _found
  · simp

/-- The selector without the pseudo parts that cannot be asked about. -/
def clean (selector : String) : String :=
  if selector.toList.contains ':' then
    let plain := erase dropStyling? length_lt_of_dropStyling? selector.toList
    let common := erase dropVendor? length_lt_of_dropVendor? plain
    String.ofList (Text.trim (erase dropRoot? length_lt_of_dropNamed? common))
  else selector

/-- The selector consists of a pseudo part only, other than the one of the document's element. -/
def isPurePseudo (selector : String) : Bool :=
  match selector.toList with
  | ':' :: rest => !Text.contains (':' :: rootPseudo) (':' :: rest)
  | _ => false

/-- The text that the page is asked about for a selector. -/
def query (selector : String) : String :=
  let cleaned := clean selector
  if cleaned = "" then selector else cleaned

end CriticalCss.Selector
