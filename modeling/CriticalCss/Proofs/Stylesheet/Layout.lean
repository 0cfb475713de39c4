import CriticalCss.Proofs.Stylesheet.ReadsAs
import CriticalCss.Stylesheet.Printer
import CriticalCss.Text.Blank
import Mathlib.Data.List.Forall2

/-!
# The two layouts say the same

The pretty and the compressed text of a stylesheet differ only in white space and in semicolons in
front of closing braces: without both they are equal (`Stylesheet.bare_print_pretty`). Texts
`Layout.Agree` if one can stand for the other in any text of which only the rest counts. The parts
of a rule agree with themselves in the other layout, and so does the rule (`Rule.agree_text`).
-/

namespace CriticalCss

namespace Layout

/-! ## Trailing semicolons -/

/-- Behind the semicolons at its start, the text goes on with a closing brace. -/
def closes (cs : List Char) : Bool :=
  (cs.dropWhile (· = ';')).head? = some '\x7d'

/-- The text without the semicolons that only semicolons part from a closing brace. -/
def dropTrailing : List Char → List Char
  | [] => []
  | c :: rest => if c = ';' ∧ closes rest then dropTrailing rest else c :: dropTrailing rest

example : dropTrailing "a;;\x7d;b;".toList = "a\x7d;b;".toList := by decide

theorem closes_cons_semicolon (cs : List Char) : closes (';' :: cs) = closes cs :=
  rfl

/-- Another semicolon in front of a brace makes no difference to the text in front of it. -/
theorem closes_append (before after : List Char) :
    closes (before ++ ';' :: '\x7d' :: after) = closes (before ++ '\x7d' :: after) := by
  induction before with
  | nil => rfl
  | cons c before ih =>
    by_cases semicolon : c = ';'
    · subst semicolon
      rw [List.cons_append, List.cons_append, closes_cons_semicolon, closes_cons_semicolon, ih]
    · simp [closes, semicolon]

/-- A semicolon in front of a brace is dropped, whatever stands around them. -/
theorem dropTrailing_append (before after : List Char) :
    dropTrailing (before ++ ';' :: '\x7d' :: after) = dropTrailing (before ++ '\x7d' :: after) := by
  induction before with
  | nil => rfl
  | cons c before ih =>
    rw [List.cons_append, List.cons_append, dropTrailing, dropTrailing, closes_append, ih]

/-- The text without white space and then without trailing semicolons. -/
def bare (blank : Char → Bool) (cs : List Char) : List Char :=
  dropTrailing (cs.filter fun c => !blank c)

/-! ## Texts that can stand for each other -/

/-- The white space of the pretty layout counts as white space, and closing braces do not. -/
structure IsWhite (blank : Char → Bool) : Prop where
  space : blank ' ' = true
  newline : blank '\n' = true
  brace : blank '\x7d' = false

/-- The two texts can stand for each other in any text whose white space and trailing semicolons do
not count. -/
def Agree (blank : Char → Bool) (as bs : List Char) : Prop :=
  ∀ before after, bare blank (before ++ as ++ after) = bare blank (before ++ bs ++ after)

section Agree

variable {blank : Char → Bool} {as bs cs ds ws : List Char}

theorem Agree.refl (as : List Char) : Agree blank as as :=
  fun _ _ => rfl

theorem Agree.trans (first : Agree blank as bs) (second : Agree blank bs cs) :
    Agree blank as cs :=
  fun before after => (first before after).trans (second before after)

theorem Agree.append (first : Agree blank as bs) (second : Agree blank cs ds) :
    Agree blank (as ++ cs) (bs ++ ds) := by
  intro before after
  calc bare blank (before ++ (as ++ cs) ++ after)
    _ = bare blank (before ++ as ++ (cs ++ after)) := by simp only [List.append_assoc]
    _ = bare blank (before ++ bs ++ (cs ++ after)) := first before (cs ++ after)
    _ = bare blank (before ++ bs ++ cs ++ after) := by simp only [List.append_assoc]
    _ = bare blank (before ++ bs ++ ds ++ after) := second (before ++ bs) after
    _ = bare blank (before ++ (bs ++ ds) ++ after) := by simp only [List.append_assoc]

theorem filter_of_blank (white : ∀ c ∈ ws, blank c = true) :
    ws.filter (fun c => !blank c) = [] := by
  rw [List.filter_eq_nil_iff]
  intro c mem
  rw [white c mem]
  exact Bool.false_ne_true

/-- White space stands for nothing. -/
theorem agree_nil_of_blank (white : ∀ c ∈ ws, blank c = true) : Agree blank ws [] := by
  intro before after
  rw [bare, bare, List.append_nil, List.filter_append, List.filter_append, filter_of_blank white,
    List.append_nil, List.filter_append]

theorem Agree.cons (c : Char) (agree : Agree blank as bs) : Agree blank (c :: as) (c :: bs) :=
  (Agree.refl [c]).append agree

theorem Agree.skip (white : ∀ c ∈ ws, blank c = true) (agree : Agree blank as bs) :
    Agree blank (ws ++ as) bs :=
  (agree_nil_of_blank white).append agree

theorem Agree.skip_cons {c : Char} (white : blank c = true) (agree : Agree blank as bs) :
    Agree blank (c :: as) bs :=
  agree.skip (List.forall_mem_singleton.2 white)

/-- A semicolon with white space in front of a brace stands for nothing. -/
theorem agree_semicolon (isWhite : IsWhite blank) (white : ∀ c ∈ ws, blank c = true) :
    Agree blank (';' :: ws ++ ['\x7d']) ['\x7d'] := by
  intro before after
  have brace : ['\x7d'].filter (fun c => !blank c) = ['\x7d'] := by
    rw [List.filter_singleton, isWhite.brace]
    rfl
  have semicolon : (';' :: ws).filter (fun c => !blank c) = [] ∨
      (';' :: ws).filter (fun c => !blank c) = [';'] := by
    rw [List.filter_cons, filter_of_blank white]
    split
    · exact Or.inr rfl
    · exact Or.inl rfl
  simp only [bare, List.filter_append, brace, List.append_assoc]
  rcases semicolon with none | one
  · rw [none]
    rfl
  · rw [one]
    exact dropTrailing_append _ _

theorem Agree.map {α : Type} {f g : α → List Char} (as : List α)
    (agree : ∀ a ∈ as, Agree blank (f a) (g a)) :
    List.Forall₂ (Agree blank) (as.map f) (as.map g) := by
  rw [List.forall₂_map_left_iff, List.forall₂_map_right_iff, List.forall₂_same]
  exact agree

/-- Texts that agree one by one agree together, with gaps that agree between them. -/
theorem Agree.intercalate {gap other : List Char} (gaps : Agree blank gap other)
    {pieces others : List (List Char)} (agree : List.Forall₂ (Agree blank) pieces others) :
    Agree blank (gap.intercalate pieces) (other.intercalate others) := by
  induction agree with
  | nil => exact Agree.refl []
  | cons first rest ih =>
    cases rest with
    | nil =>
      rw [List.intercalate_singleton, List.intercalate_singleton]
      exact first
    | cons second rest =>
      rw [List.intercalate_cons_cons, List.intercalate_cons_cons]
      exact (first.append gaps).append ih

/-- Texts that agree one by one agree together. -/
theorem Agree.flatten {pieces others : List (List Char)}
    (agree : List.Forall₂ (Agree blank) pieces others) :
    Agree blank pieces.flatten others.flatten := by
  rw [flatten_eq_intercalate, flatten_eq_intercalate]
  exact (Agree.refl []).intercalate agree

/-- White space between texts stands for nothing. -/
theorem agree_intercalate (white : ∀ c ∈ ws, blank c = true) (pieces : List (List Char)) :
    Agree blank (ws.intercalate pieces) pieces.flatten := by
  rw [flatten_eq_intercalate]
  apply (agree_nil_of_blank white).intercalate
  exact List.forall₂_same.2 fun piece _ => Agree.refl piece

end Agree

/-! ## Parts of rules -/

section Parts

variable {blank : Char → Bool} (white : IsWhite blank)
include white

theorem IsWhite.indentation (level : Nat) : ∀ c ∈ indentation level, blank c = true := by
  intro c mem
  rw [List.eq_of_mem_replicate mem]
  exact white.space

theorem IsWhite.newline_indentation (level : Nat) :
    ∀ c ∈ '\n' :: CriticalCss.indentation level, blank c = true :=
  List.forall_mem_cons.2 ⟨white.newline, white.indentation level⟩

/-- What a rule begins with is indented in one layout only. -/
theorem agree_head (level : Nat) {head other : List Char} (agree : Agree blank head other) :
    Agree blank (pretty.indent level ++ head) (compressed.indent level ++ other) :=
  (agree_nil_of_blank (white.indentation level)).append agree

theorem agree_selectors (level : Nat) (texts : List String) :
    Agree blank (pretty.selectors level texts) (compressed.selectors level texts) := by
  apply Agree.intercalate
  · exact Agree.cons ',' (agree_nil_of_blank (white.newline_indentation level))
  · exact Agree.map texts fun text _ => Agree.refl text.toList

/-- A declaration is written as in the compressed layout, with a semicolon behind it. -/
theorem exists_declaration (level : Nat) (d : Declaration) :
    ∃ line, pretty.declaration level d = line ++ [';'] ∧
      Agree blank line (compressed.declaration level d) := by
  refine ⟨_, rfl, ?_⟩
  have value : Agree blank (':' :: ' ' :: d.value.toList) (':' :: d.value.toList) :=
    ((Agree.refl _).skip_cons white.space).cons ':'
  exact ((Agree.refl _).skip (white.indentation (level + 1))).append value

/-- The lines of declarations in front of the brace that closes their block. -/
theorem agree_lines (level : Nat) {ws : List Char} (gap : ∀ c ∈ ws, blank c = true)
    (ds : List Declaration) :
    Agree blank (['\n'].intercalate (ds.map (pretty.declaration level)) ++ (ws ++ ['\x7d']))
      ([';'].intercalate (ds.map (compressed.declaration level)) ++ ['\x7d']) := by
  induction ds with
  | nil =>
    rw [List.map_nil, List.map_nil, List.intercalate_nil, List.intercalate_nil, List.nil_append]
    exact (Agree.refl _).skip gap
  | cons d rest ih =>
    obtain ⟨line, written, agree⟩ := exists_declaration white level d
    cases rest with
    | nil =>
      rw [List.map_singleton, List.map_singleton, List.intercalate_singleton,
        List.intercalate_singleton, written, List.append_assoc]
      exact agree.append (agree_semicolon white gap)
    | cons next rest =>
      simp only [List.map_cons, List.intercalate_cons_cons, List.append_assoc] at ih ⊢
      rw [written, List.append_assoc]
      exact agree.append ((ih.skip_cons white.newline).cons ';')

theorem agree_declarations (level : Nat) (ds : List Declaration) :
    Agree blank (pretty.declarations level ds) (compressed.declarations level ds) := by
  have lines := agree_lines white level (white.newline_indentation level) ds
  rw [declarations, declarations]
  simp only [List.append_assoc]
  exact ((lines.skip_cons white.newline).cons '\x7b').skip_cons white.space

/-- A block of rules agrees if the rules do. -/
theorem agree_rules (level : Nat) {gap : List Char} (between : ∀ c ∈ gap, blank c = true)
    {body others : List (List Char)} (agree : List.Forall₂ (Agree blank) body others) :
    Agree blank (pretty.rules level gap body) (compressed.rules level gap others) := by
  have inside := ((agree_intercalate between body).trans (Agree.flatten agree)).append
    ((Agree.refl ['\x7d']).skip (white.newline_indentation level))
  rw [rules, rules]
  simp only [List.append_assoc]
  exact ((inside.skip_cons white.newline).cons '\x7b').skip_cons white.space

theorem agree_keyframe (level : Nat) (f : Keyframe) :
    Agree blank (pretty.keyframe level f) (compressed.keyframe level f) :=
  (agree_head white level (Agree.refl _)).append (agree_declarations white level f.declarations)

theorem agree_atRule (level : Nat) (r : AtRule) :
    Agree blank (pretty.atRule level r) (compressed.atRule level r) := by
  have head := (agree_head white level (Agree.refl ('@' :: r.name.toList))).append
    (Agree.refl (if r.prelude = "" then [] else ' ' :: r.prelude.toList))
  unfold atRule
  cases r.block with
  | none => exact head.append (Agree.refl [';'])
  | some block =>
    have opening : Agree blank [' ', '\x7b', ' '] ['\x7b'] :=
      (((Agree.refl []).skip_cons white.space).cons '\x7b').skip_cons white.space
    have closing : Agree blank [' ', '\x7d'] ['\x7d'] := (Agree.refl _).skip_cons white.space
    have whole := ((head.append opening).append (Agree.refl block.toList)).append closing
    simp only [List.append_assoc] at whole ⊢
    exact whole

end Parts

end Layout

/-! ## Rules -/

open Layout

mutual

/-- **A rule agrees with itself in the other layout**, at any level. -/
theorem Rule.agree_text {blank : Char → Bool} (white : IsWhite blank) (level : Nat) :
    ∀ r : Rule, Agree blank (r.text .pretty level) (r.text .compressed level)
  | .style r =>
    (agree_head white level (agree_selectors white level r.selectors)).append
      (agree_declarations white level r.declarations)
  | .atRule r => agree_atRule white level r
  | .group kind condition inner _ => by
    have gap : ∀ c ∈ ['\n', '\n'], blank c = true := by simp [white.newline]
    have body := agree_rules white level gap (Rule.agree_texts white level inner)
    exact ((agree_head white level (Agree.refl _)).append (Agree.refl _)).append body
  | .fontFace ds _ =>
    (agree_head white level (Agree.refl _)).append (agree_declarations white level ds)
  | .charset c _ =>
    ((agree_head white level (Agree.refl _)).append (Agree.refl _)).append (Agree.refl _)
  | .keyframes name vendor frames _ => by
    have body := agree_rules white level (List.forall_mem_singleton.2 white.newline)
      (Agree.map frames fun f _ => agree_keyframe white (level + 1) f)
    exact (((agree_head white level (Agree.refl _)).append (Agree.refl _)).append
      (Agree.refl _)).append body
  | .keyframe _ => Agree.refl []
  | .comment t _ => (agree_head white level (Agree.refl _)).append (Agree.refl _)

theorem Rule.agree_texts {blank : Char → Bool} (white : IsWhite blank) (level : Nat) :
    ∀ rules : List Rule, List.Forall₂ (Agree blank) (Rule.text.texts .pretty level rules)
      (Rule.text.texts .compressed level rules)
  | [] => .nil
  | r :: rest => .cons (Rule.agree_text white (level + 1) r) (Rule.agree_texts white level rest)

end

namespace Stylesheet

theorem agree_text {blank : Char → Bool} (white : IsWhite blank) (sheet : Stylesheet) :
    Agree blank (sheet.text .pretty) (sheet.text .compressed) := by
  have gap : ∀ c ∈ ['\n', '\n'], blank c = true := by simp [white.newline]
  have chunks := Agree.flatten (Agree.map sheet fun r _ => Rule.agree_text white 0 r)
  rw [← List.flatten_filter_not_isEmpty] at chunks
  rw [text, text, List.flatten_filter_not_isEmpty]
  exact (agree_intercalate gap _).trans chunks

/-- **The two layouts say the same.** Without white space and without the semicolons in front of
closing braces, the pretty and the compressed text of a stylesheet are equal. -/
theorem bare_print_pretty {blank : Char → Bool} (white : IsWhite blank) (sheet : Stylesheet) :
    bare blank (sheet.print .pretty).toList = bare blank (sheet.print .compressed).toList := by
  have same := agree_text white sheet [] []
  rw [List.nil_append, List.append_nil, List.nil_append, List.append_nil] at same
  rw [print, print, String.toList_ofList, String.toList_ofList, same]

/-- A group in a group, with a value that holds semicolons and a brace itself. -/
theorem bare_print_pretty_of_nested_groups :
    let style : Rule := .style ⟨["a"], [⟨"b", ";"⟩, ⟨"c", ";\x7d;"⟩], none⟩
    let sheet : Stylesheet := [.group .media "p" [.group .supports "q" [style] none] none]
    IsWhite Text.isBlank ∧
      bare Text.isBlank (sheet.print .pretty).toList =
        bare Text.isBlank (sheet.print .compressed).toList ∧
      bare Text.isBlank (sheet.print .pretty).toList =
        "@mediap\x7b@supportsq\x7ba\x7bb:;;c:\x7d\x7d\x7d\x7d".toList := by
  intro style sheet
  have white : IsWhite Text.isBlank := ⟨by decide, by decide, by decide⟩
  exact ⟨white, bare_print_pretty white sheet, by decide +kernel⟩

end Stylesheet

end CriticalCss
