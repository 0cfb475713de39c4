import CriticalCss.Proofs.Text.Blank
import CriticalCss.Selector.Pseudo

/-!
# Chains of pseudo parts

A selector is often a base with a chain of pseudo parts behind it, and it is cleaned in three
passes, one for each kind of pseudo part. All that a pass looks at is a pair of colons or a single
one and what stands behind (`CutsBehind`), so it takes the parts of its kind out of a chain and
leaves the others as they are (`erase_chain`). After the three passes no part is left.
-/

namespace CriticalCss.Selector

/-! ## Pseudo parts -/

/-- What stands behind the colons of a pseudo part that the page cannot be asked about. -/
inductive PseudoName where
  | after
  | before
  | firstLine
  | firstLetter
  | selection
  | visited
  | root
  /-- The name of a single browser: a hyphen and a run of small letters and hyphens. -/
  | vendor (run : { cs : List Char // cs.all isVendorChar })
deriving DecidableEq, Repr

/-- A pseudo part of a selector. -/
structure PseudoPart where
  isDoubled : Bool
  name : PseudoName
deriving DecidableEq, Repr

/-- One colon, or two. -/
def colons (isDoubled : Bool) : List Char :=
  if isDoubled then [':', ':'] else [':']

def PseudoName.text : PseudoName → List Char
  | after => "after".toList
  | before => "before".toList
  | firstLine => "first-line".toList
  | firstLetter => "first-letter".toList
  | selection => "selection".toList
  | visited => "visited".toList
  | root => "root".toList
  | vendor run => '-' :: run.1

def PseudoPart.text (p : PseudoPart) : List Char :=
  colons p.isDoubled ++ p.name.text

/-- Pseudo parts one behind the other. -/
def chain (parts : List PseudoPart) : List Char :=
  parts.flatMap PseudoPart.text

@[simp] theorem chain_nil : chain [] = [] :=
  rfl

@[simp] theorem chain_cons (p : PseudoPart) (parts : List PseudoPart) :
    chain (p :: parts) = p.text ++ chain parts :=
  List.flatMap_cons

theorem colon_not_mem_vendor {run : List Char} (small : run.all isVendorChar) : ':' ∉ run := by
  intro mem
  have vendor := List.all_eq_true.1 small _ mem
  exact absurd vendor (by decide)

theorem PseudoName.colon_not_mem_text (name : PseudoName) : ':' ∉ name.text := by
  cases name with
  | vendor run => exact List.not_mem_cons_of_ne_of_not_mem (by decide) (colon_not_mem_vendor run.2)
  | _ => decide

theorem PseudoName.text_ne_nil (name : PseudoName) : name.text ≠ [] := by
  cases name with
  | vendor run => exact List.cons_ne_nil _ _
  | _ => decide

/-- What stands behind the colons does not begin with a colon. -/
theorem PseudoName.head?_text_append_ne (name : PseudoName) (rest : List Char) :
    (name.text ++ rest).head? ≠ some ':' := by
  obtain ⟨c, cs, shape⟩ := List.exists_cons_of_ne_nil name.text_ne_nil
  have plain := name.colon_not_mem_text
  rw [shape] at plain ⊢
  intro same
  cases same
  exact plain List.mem_cons_self

/-- A chain is at its end or begins with a colon. -/
theorem eq_colon_of_mem_head?_chain {parts : List PseudoPart} :
    ∀ c ∈ (chain parts).head?, c = ':' := by
  cases parts with
  | nil => nofun
  | cons p parts =>
    intro c mem
    obtain ⟨isDoubled, name⟩ := p
    cases isDoubled <;> exact (Option.some.inj mem).symm

theorem colon_mem_chain {parts : List PseudoPart} (nonempty : parts ≠ []) : ':' ∈ chain parts := by
  obtain ⟨⟨isDoubled, name⟩, rest, rfl⟩ := List.exists_cons_of_ne_nil nonempty
  cases isDoubled <;> exact List.mem_cons_self

/-! ## One pass -/

section Pass

variable {drop? behind? : List Char → Option (List Char)}

/-- Only colons begin what is cut off, and what stands behind them decides if it is. -/
structure CutsBehind (drop? behind? : List Char → Option (List Char)) : Prop where
  plain {c : Char} {cs : List Char} : c ≠ ':' → drop? (c :: cs) = none
  colons (isDoubled : Bool) {cs : List Char} :
    cs.head? ≠ some ':' → drop? (colons isDoubled ++ cs) = behind? cs

variable {shorter : ∀ {cs rest}, drop? cs = some rest → rest.length < cs.length}

theorem erase_of_eq_some {c : Char} {cs rest : List Char} (found : drop? (c :: cs) = some rest) :
    erase drop? shorter (c :: cs) = erase drop? shorter rest := by
  rw [erase]
  split
  · rename_i other
    rw [found] at other
    rw [Option.some.inj other]
  · rename_i none
    rw [found] at none
    cases none

theorem erase_of_eq_none {c : Char} {cs : List Char} (none : drop? (c :: cs) = none) :
    erase drop? shorter (c :: cs) = c :: erase drop? shorter cs := by
  rw [erase]
  split
  · rename_i found
    rw [none] at found
    cases found
  · rfl

/-- A text without colons is left as it is. -/
theorem erase_append_of_colon_not_mem (cuts : CutsBehind drop? behind?) {cs : List Char}
    (plain : ':' ∉ cs) (rest : List Char) :
    erase drop? shorter (cs ++ rest) = cs ++ erase drop? shorter rest := by
  induction cs with
  | nil => rfl
  | cons c cs ih =>
    have other : c ≠ ':' := (List.ne_of_not_mem_cons plain).symm
    rw [List.cons_append, erase_of_eq_none (cuts.plain other),
      ih (List.not_mem_of_not_mem_cons plain), List.cons_append]

/-- A part whose name is cut off goes with its colons. -/
theorem erase_part_of_eq_some (cuts : CutsBehind drop? behind?) {p : PseudoPart}
    {rest : List Char} (found : behind? (p.name.text ++ rest) = some rest) :
    erase drop? shorter (p.text ++ rest) = erase drop? shorter rest := by
  obtain ⟨isDoubled, name⟩ := p
  have dropped := cuts.colons isDoubled (name.head?_text_append_ne rest)
  rw [found] at dropped
  rw [PseudoPart.text, List.append_assoc]
  cases isDoubled <;> exact erase_of_eq_some dropped

/-- A part whose name is not cut off stays. -/
theorem erase_part_of_eq_none (cuts : CutsBehind drop? behind?) {p : PseudoPart}
    {rest : List Char} (none : behind? (p.name.text ++ rest) = none) :
    erase drop? shorter (p.text ++ rest) = p.text ++ erase drop? shorter rest := by
  obtain ⟨isDoubled, name⟩ := p
  have next := name.head?_text_append_ne rest
  -- the second colon of two is a single colon in front of the same name
  have single := cuts.colons false next
  have passed : erase drop? shorter (colons false ++ (name.text ++ rest)) =
      colons false ++ (name.text ++ erase drop? shorter rest) := by
    rw [← erase_append_of_colon_not_mem cuts name.colon_not_mem_text]
    exact erase_of_eq_none (single.trans none)
  rw [PseudoPart.text, List.append_assoc, List.append_assoc]
  cases isDoubled with
  | false => exact passed
  | true =>
    have double := cuts.colons true next
    exact (erase_of_eq_none (double.trans none)).trans (congrArg (':' :: ·) passed)

/-- **A pass takes the parts of its kind out of a chain** and leaves the others as they are. -/
theorem erase_chain (cuts : CutsBehind drop? behind?) {isCut : PseudoName → Bool}
    (found : ∀ name rest, isCut name = true → (∀ c ∈ rest.head?, c = ':') →
      behind? (name.text ++ rest) = some rest)
    (none : ∀ name rest, isCut name = false → behind? (name.text ++ rest) = none)
    (parts : List PseudoPart) :
    erase drop? shorter (chain parts) = chain (parts.filter fun p => !isCut p.name) := by
  induction parts with
  | nil => rw [chain_nil, erase]; rfl
  | cons p parts ih =>
    rw [chain_cons]
    cases cut : isCut p.name with
    | true =>
      rw [erase_part_of_eq_some cuts (found _ _ cut eq_colon_of_mem_head?_chain), ih,
        List.filter_cons_of_neg (by simp [cut])]
    | false =>
      rw [erase_part_of_eq_none cuts (none _ _ cut), ih,
        List.filter_cons_of_pos (by simp [cut]), chain_cons]

end Pass

/-! ## The three passes -/

theorem dropLead?_cons_of_ne {lead cs : List Char} {c d : Char} (other : c ≠ d) :
    Text.dropLead? (c :: lead) (d :: cs) = none := by
  simp [Text.dropLead?, other]

theorem dropLead?_cons_cons (c : Char) (lead cs : List Char) :
    Text.dropLead? (c :: lead) (c :: cs) = Text.dropLead? lead cs := by
  simp [Text.dropLead?]

theorem dropLead?_cons_of_head? {lead cs : List Char} {c : Char} (next : cs.head? ≠ some c) :
    Text.dropLead? (c :: lead) cs = none := by
  cases cs with
  | nil => rfl
  | cons d cs => exact dropLead?_cons_of_ne fun same => next (congrArg some same.symm)

theorem dropNamed?_of_ne {name cs : List Char} {c : Char} (other : c ≠ ':') :
    dropNamed? name (c :: cs) = none := by
  rw [dropNamed?, dropLead?_cons_of_ne other.symm, dropLead?_cons_of_ne other.symm, Option.or_none]

/-- A name without colons is looked for behind all the colons that there are. -/
theorem dropNamed?_colons {name cs : List Char} (plain : name ≠ [] ∧ ':' ∉ name)
    (isDoubled : Bool) (next : cs.head? ≠ some ':') :
    dropNamed? name (colons isDoubled ++ cs) = Text.dropLead? name cs := by
  obtain ⟨d, rest, rfl⟩ := List.exists_cons_of_ne_nil plain.1
  have other : d ≠ ':' := (List.ne_of_not_mem_cons plain.2).symm
  cases isDoubled with
  | false =>
    change (Text.dropLead? _ (':' :: cs)).or (Text.dropLead? _ (':' :: cs)) = _
    rw [dropLead?_cons_cons, dropLead?_cons_of_head? next, Option.none_or, dropLead?_cons_cons]
  | true =>
    change (Text.dropLead? _ (':' :: ':' :: cs)).or (Text.dropLead? _ (':' :: ':' :: cs)) = _
    rw [dropLead?_cons_cons, dropLead?_cons_cons, dropLead?_cons_cons,
      dropLead?_cons_of_ne other, Option.or_none]

theorem findSome?_dropNamed?_colons {names : List (List Char)} {cs : List Char}
    (plain : ∀ name ∈ names, name ≠ [] ∧ ':' ∉ name) (isDoubled : Bool)
    (next : cs.head? ≠ some ':') :
    (names.findSome? fun name => dropNamed? name (colons isDoubled ++ cs)) =
      names.findSome? fun name => Text.dropLead? name cs := by
  induction names with
  | nil => rfl
  | cons name names ih =>
    obtain ⟨first, others⟩ := List.forall_mem_cons.1 plain
    rw [List.findSome?_cons, List.findSome?_cons, dropNamed?_colons first isDoubled next,
      ih others]

theorem cutsBehind_dropStyling? :
    CutsBehind dropStyling? fun cs =>
      stylingPseudos.findSome? fun name => Text.dropLead? name cs where
  plain other := List.findSome?_eq_none_iff.2 fun _ _ => dropNamed?_of_ne other
  colons isDoubled _ next := findSome?_dropNamed?_colons (by decide) isDoubled next

theorem cutsBehind_dropVendor? :
    CutsBehind dropVendor? fun cs => (Text.dropLead? ['-'] cs).map (·.dropWhile isVendorChar) where
  plain other := by rw [dropVendor?, dropNamed?_of_ne other]; rfl
  colons isDoubled cs next := by rw [dropVendor?, dropNamed?_colons (by decide) isDoubled next]

theorem cutsBehind_dropRoot? : CutsBehind dropRoot? (Text.dropLead? rootPseudo) where
  plain other := dropNamed?_of_ne other
  colons isDoubled _ next := dropNamed?_colons (by decide) isDoubled next

theorem length_lt_of_dropRoot? {cs rest : List Char} (h : dropRoot? cs = some rest) :
    rest.length < cs.length :=
  length_lt_of_dropNamed? h

namespace PseudoName

/-- The name is one of a single browser. -/
def isVendor : PseudoName → Bool
  | vendor _ => true
  | _ => false

/-- The name is that of the document's element. -/
def isRoot : PseudoName → Bool
  | root => true
  | _ => false

/-- The name is that of a part which styles an element. -/
def isStyling (name : PseudoName) : Bool :=
  !name.isVendor && !name.isRoot

end PseudoName

variable {parts : List PseudoPart}

theorem erase_dropStyling?_chain :
    erase dropStyling? length_lt_of_dropStyling? (chain parts) =
      chain (parts.filter fun p => !p.name.isStyling) := by
  refine erase_chain cutsBehind_dropStyling? ?_ ?_ parts
  · intro name rest cut _
    cases name with
    | root | vendor run => cases cut
    | _ => rfl
  · intro name rest cut
    cases name with
    | root | vendor run => rfl
    | _ => cases cut

/-- The run of letters behind the hyphen ends where the next part begins. -/
theorem erase_dropVendor?_chain :
    erase dropVendor? length_lt_of_dropVendor? (chain parts) =
      chain (parts.filter fun p => !p.name.isVendor) := by
  refine erase_chain cutsBehind_dropVendor? ?_ ?_ parts
  · intro name rest cut stops
    cases name with
    | vendor run =>
      have small := List.all_eq_true.1 run.2
      have ends : ∀ c ∈ rest.head?, isVendorChar c = false := by
        intro c mem
        rw [stops c mem]
        decide
      change some ((run.1 ++ rest).dropWhile isVendorChar) = some rest
      rw [dropWhile_append_of_forall small ends]
    | _ => cases cut
  · intro name rest cut
    cases name with
    | vendor run => cases cut
    | _ => rfl

theorem erase_dropRoot?_chain :
    erase dropRoot? length_lt_of_dropRoot? (chain parts) =
      chain (parts.filter fun p => !p.name.isRoot) := by
  refine erase_chain cutsBehind_dropRoot? ?_ ?_ parts
  · intro name rest cut _
    cases name with
    | root => rfl
    | _ => cases cut
  · intro name rest cut
    cases name with
    | root => cases cut
    | _ => rfl

/-- Every part is of one of the three kinds. -/
theorem filter_filter_filter_eq_nil :
    ((parts.filter fun p => !p.name.isStyling).filter fun p => !p.name.isVendor).filter
      (fun p => !p.name.isRoot) = [] := by
  rw [List.filter_filter, List.filter_filter, List.filter_eq_nil_iff]
  intro p _
  cases vendor : p.name.isVendor <;> cases root : p.name.isRoot <;>
    simp [PseudoName.isStyling, vendor, root]

/-! ## Cleaning -/

/-- A selector with a colon goes through the three passes. -/
theorem clean_of_colon_mem {selector : String} (colon : ':' ∈ selector.toList) :
    clean selector = String.ofList (Text.trim (erase dropRoot? length_lt_of_dropRoot?
      (erase dropVendor? length_lt_of_dropVendor?
        (erase dropStyling? length_lt_of_dropStyling? selector.toList)))) := by
  rw [clean, if_pos (List.contains_iff_mem.2 colon)]

/-- **Cleaning leaves the base of a selector.** Of a base without colons and a chain of pseudo
parts behind it the base is left, without white space at its ends; and this is what the page is
asked about, unless it is empty, and then the page is asked about the whole selector. -/
theorem clean_append_chain {base : String} {parts : List PseudoPart} (plain : ':' ∉ base.toList)
    (nonempty : parts ≠ []) :
    clean (base ++ String.ofList (chain parts)) = Text.trimmed base ∧
      query (base ++ String.ofList (chain parts)) =
        if Text.trimmed base = "" then base ++ String.ofList (chain parts)
        else Text.trimmed base := by
  have letters : (base ++ String.ofList (chain parts)).toList = base.toList ++ chain parts := by
    rw [String.toList_append, String.toList_ofList]
  have colon : ':' ∈ (base ++ String.ofList (chain parts)).toList := by
    rw [letters]
    exact List.mem_append_right _ (colon_mem_chain nonempty)
  have cleaned : clean (base ++ String.ofList (chain parts)) = Text.trimmed base := by
    rw [clean_of_colon_mem colon, letters, Text.trimmed,
      erase_append_of_colon_not_mem cutsBehind_dropStyling? plain, erase_dropStyling?_chain,
      erase_append_of_colon_not_mem cutsBehind_dropVendor? plain, erase_dropVendor?_chain,
      erase_append_of_colon_not_mem cutsBehind_dropRoot? plain, erase_dropRoot?_chain,
      filter_filter_filter_eq_nil, chain_nil, List.append_nil]
  exact ⟨cleaned, by rw [query, cleaned]⟩

/-- Two parts of browsers around a part that is cut off before them, and the document's element
behind: what looks like a part without colons stays in the base. -/
theorem clean_append_chain_of_four_parts :
    let parts : List PseudoPart := [⟨true, .vendor ⟨"webkit-x".toList, by decide⟩⟩,
      ⟨false, .after⟩, ⟨false, .vendor ⟨[], rfl⟩⟩, ⟨true, .root⟩]
    (':' ∉ " a-after ".toList ∧ parts ≠ []) ∧
      String.ofList (chain parts) = "::-webkit-x:after:-::root" ∧
      clean " a-after ::-webkit-x:after:-::root" = "a-after" ∧
      query " a-after ::-webkit-x:after:-::root" = "a-after" := by
  intro parts
  have plain : ':' ∉ " a-after ".toList := by decide
  have nonempty : parts ≠ [] := List.cons_ne_nil _ _
  have cleaned := clean_append_chain plain nonempty
  have shown : Text.trimmed " a-after " = "a-after" := by decide
  rw [shown] at cleaned
  exact ⟨⟨plain, nonempty⟩, rfl, cleaned⟩

end CriticalCss.Selector
