import CriticalCss.Proofs.Stylesheet.Letters
import CriticalCss.Proofs.Stylesheet.Steady

/-!
# Printing what was read and reading it again

A stylesheet that was read is printed and read again as the same rules, and printing those gives
the same text, if the pieces of the text that it was read from are steady.
-/

namespace CriticalCss

namespace Rule

variable (layout : Layout)

mutual

/-- Positions are not printed. -/
theorem text_erase (level : Nat) (r : Rule) : r.erase.text layout level = r.text layout level := by
  match r with
  | .group _ _ inner _ => rw [erase, text, text, texts_eraseAll level inner]
  | .keyframes .. =>
    rw [erase, text, text, List.map_map]
    rfl
  | .style _ | .atRule _ | .fontFace .. | .charset .. | .keyframe _ | .comment .. => rfl

theorem texts_eraseAll (level : Nat) : ∀ rules : List Rule,
    text.texts layout level (erase.eraseAll rules) = text.texts layout level rules
  | [] => rfl
  | r :: rules => by
    rw [erase.eraseAll, text.texts, text.texts, text_erase (level + 1) r,
      texts_eraseAll level rules]

end

end Rule

namespace Stylesheet

open Css

/-- Stylesheets that differ only in their positions are printed as the same text. -/
theorem print_eq_of_erase {a b : Stylesheet} (same : a.map Rule.erase = b.map Rule.erase)
    (layout : Layout) : print layout a = print layout b := by
  have texts (sheet : Stylesheet) :
      sheet.map (Rule.text layout 0) = (sheet.map Rule.erase).map (Rule.text layout 0) := by
    rw [List.map_map]
    exact List.map_congr_left fun r _ => (Rule.text_erase layout 0 r).symm
  have text : text layout a = text layout b := by
    unfold Stylesheet.text
    rw [texts a, same, ← texts b]
  rw [print, text, print]

/-- **What was read is read again from either layout.** If what is kept of the pieces of a text
can be written, then the stylesheet that the text is read as is printed and read again as the
same rules, up to their positions, and those are printed as the same text. -/
theorem parse_print_of_isSteady {css : String} {sheet : Stylesheet} (given : parse css = .ok sheet)
    (steady : ∀ piece ∈ pieces css, piece.IsSteady) (layout : Layout) :
    ∃ sheet', parse (print layout sheet) = .ok sheet' ∧
      sheet'.map Rule.erase = sheet.map Rule.erase ∧ print layout sheet' = print layout sheet := by
  obtain ⟨sheet', strict, same⟩ :=
    parseStrict_print_of_legible (isLegible_of_parse given steady) layout
  refine ⟨sheet', ?_, same, print_eq_of_erase same layout⟩
  rw [parse, parseStrict_eq_ok_iff.1 strict]
  rfl

/-- A text with a comment, with a colon escaped in a selector, with `!important` and with a group
is steady. -/
theorem parse_print_of_isSteady_of_three_rules :
    let css := "/*n*/.a\\:b , c\x7bd: e(f)!important\x7d@media g\x7bh\x7bi: \"j\"\x7d\x7d"
    let sheet : Stylesheet := [.comment "n" (some ⟨1, 1⟩),
      .style ⟨[".a\\:b", "c"], [⟨"d", "e(f) !important"⟩], some ⟨1, 6⟩⟩,
      .group .media "g" [.style ⟨["h"], [⟨"i", "\"j\""⟩], some ⟨1, 43⟩⟩] (some ⟨1, 34⟩)]
    parse css = .ok sheet ∧ (∀ piece ∈ pieces css, piece.IsSteady) ∧
      ∃ sheet', parse (print .compressed sheet) = .ok sheet' ∧
        sheet'.map Rule.erase = sheet.map Rule.erase ∧
        print .compressed sheet' = print .compressed sheet := by
  intro css sheet
  have given : parse css = .ok sheet := by decide +kernel
  have steady : ∀ piece ∈ pieces css, piece.IsSteady := by decide +kernel
  exact ⟨given, steady, parse_print_of_isSteady given steady .compressed⟩

/-- An escape in the name of a property is not written again: the name of `b\:c` ends before the
colon when it is read again. -/
theorem escaped_name_is_cut :
    ∃ sheet sheet', parse "a\x7bb\\:c:d\x7d" = .ok sheet ∧
      parse (print .pretty sheet) = .ok sheet' ∧
      sheet.map Rule.erase = [.style ⟨["a"], [⟨"b:c", "d"⟩], none⟩] ∧
      sheet'.map Rule.erase = [.style ⟨["a"], [⟨"b", "c: d"⟩], none⟩] := by
  refine ⟨[.style ⟨["a"], [⟨"b:c", "d"⟩], some ⟨1, 1⟩⟩],
    [.style ⟨["a"], [⟨"b", "c: d"⟩], some ⟨1, 1⟩⟩], ?_, ?_, rfl, rfl⟩
  · decide +kernel
  · decide +kernel

end Stylesheet

end CriticalCss
