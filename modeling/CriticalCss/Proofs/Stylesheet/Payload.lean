import CriticalCss.Proofs.RuleMap.Content

/-!
# What is digested

A rule is named by the digest of a text. Two rules have one text exactly when they are the same up
to positions, and the text of their declarations is the same exactly when the declarations are
(`Rule.payload_tells_rule`). Both texts are ASCII: what is outside ASCII has been escaped, so the
bytes that are digested are the characters of the text.
-/

namespace CriticalCss

/-! ## ASCII texts -/

namespace Digest

/-- All characters of the text are ASCII. -/
def IsAscii (cs : List Char) : Prop :=
  ∀ c ∈ cs, c.toNat < 128

@[simp] theorem isAscii_nil : IsAscii [] :=
  List.forall_mem_nil _

@[simp] theorem isAscii_cons {c : Char} {cs : List Char} :
    IsAscii (c :: cs) ↔ c.toNat < 128 ∧ IsAscii cs :=
  List.forall_mem_cons

@[simp] theorem isAscii_append {as bs : List Char} :
    IsAscii (as ++ bs) ↔ IsAscii as ∧ IsAscii bs :=
  List.forall_mem_append

theorem IsAscii.ite {p : Prop} [Decidable p] {as bs : List Char} (left : p → IsAscii as)
    (right : ¬p → IsAscii bs) : IsAscii (if p then as else bs) := by
  split
  · exact left ‹p›
  · exact right ‹¬p›

/-- The digest of an ASCII text is that of its UTF-8 bytes. -/
theorem ofAscii_eq {cs : List Char} (ascii : IsAscii cs) :
    ofAscii cs = md5 (cs.flatMap String.utf8EncodeChar) := by
  rw [ofAscii]
  refine congrArg md5 ?_
  induction cs with
  | nil => rfl
  | cons c cs ih =>
    rw [isAscii_cons] at ascii
    have single : c.utf8Size = 1 := by
      rw [Char.utf8Size_eq_one_iff, UInt32.le_iff_toNat_le]
      exact Nat.le_of_lt_succ ascii.1
    rw [List.map_cons, List.flatMap_cons, String.utf8EncodeChar_eq_singleton single, ih ascii.2]
    rfl

end Digest

namespace Json

open Digest

theorem isAscii_unitEscape (unit : Nat) : IsAscii (unitEscape unit) := by
  have digits : ∀ d < 16, (Nat.digitChar d).toNat < 128 := by decide
  have digit : ∀ n, (hexDigit n).toNat < 128 := fun n => digits _ (Nat.mod_lt n (by decide))
  simp [unitEscape, digit]

theorem isAscii_quoteChar (c : Char) : IsAscii (quoteChar c) := by
  have short : ∀ d : Char, d.toNat < 128 → IsAscii ['\\', d] := fun d ascii => by simp [ascii]
  -- seven short escapes, a control character, an ASCII one, one of the first plane and another one
  rw [quoteChar]
  iterate 7 refine .ite (fun _ => short _ (by decide)) fun _ => ?_
  refine .ite (fun _ => isAscii_unitEscape _) fun _ => ?_
  refine .ite (fun plain => isAscii_cons.2 ⟨plain.trans (by decide), isAscii_nil⟩) fun _ => ?_
  refine .ite (fun _ => isAscii_unitEscape _) fun _ => ?_
  exact isAscii_append.2 ⟨isAscii_unitEscape _, isAscii_unitEscape _⟩

theorem isAscii_quote (s : String) : IsAscii (quote s) := by
  have body : IsAscii (s.toList.flatMap quoteChar) := by
    intro d mem
    obtain ⟨c, -, inside⟩ := List.mem_flatMap.1 mem
    exact isAscii_quoteChar c d inside
  simp [quote, body]

mutual

/-- The text of a value without numbers is ASCII. -/
theorem isAscii_text : ∀ {j : Json}, j.Numberless → IsAscii j.text
  | .null, _ | .bool true, _ | .bool false, _ | .arr [], _ | .obj [], _ => by simp [text]
  | .int _, plain | .float _, plain => plain.elim
  | .str s, _ => isAscii_quote s
  | .arr (a :: as), plain => by
    simp [text, isAscii_text plain.1, isAscii_textItems plain.2]
  | .obj ((name, a) :: as), plain => by
    simp [text, isAscii_quote name, isAscii_text plain.1, isAscii_textMembers plain.2]

theorem isAscii_textItems : ∀ {items : List Json}, Numberless.allItems items →
    IsAscii (text.textItems items)
  | [], _ => by simp [text.textItems]
  | a :: as, plain => by
    simp [text.textItems, isAscii_text plain.1, isAscii_textItems plain.2]

theorem isAscii_textMembers : ∀ {members : List (String × Json)}, Numberless.allMembers members →
    IsAscii (text.textMembers members)
  | [], _ => by simp [text.textMembers]
  | (name, a) :: as, plain => by
    simp [text.textMembers, isAscii_quote name, isAscii_text plain.1,
      isAscii_textMembers plain.2]

end

end Json

/-! ## What the texts tell -/

theorem Declaration.digest_eq (ds : List Declaration) :
    digest ds = Digest.md5 ((payload ds).flatMap String.utf8EncodeChar) :=
  Digest.ofAscii_eq (Json.isAscii_text (numberless_pairs ds))

namespace Rule

theorem payload_eq_iff {a b : Rule} :
    a.payload = b.payload ↔ a.kind = b.kind ∧ a.erase = b.erase := by
  constructor
  · intro same
    have erased := erase_eq_of_payload same
    exact ⟨kind_eq_of_erase erased, erased⟩
  · intro given
    rw [← payload_erase a, given.2, payload_erase b]

/-- The digest of a rule is that of its text. -/
theorem digest_eq (r : Rule) : r.digest = Digest.md5 (r.payload.flatMap String.utf8EncodeChar) :=
  Digest.ofAscii_eq (Json.isAscii_text (numberless_content r))

/-- **The digested texts tell the rule.** The text whose UTF-8 bytes name a rule is the same for
two rules exactly when they are of one kind and the same up to positions at any depth, and the one
whose UTF-8 bytes name the declarations exactly when the declarations are the same in order; a rule
of a kind without declarations has none. -/
theorem payload_tells_rule (a b : Rule) :
    (a.payload = b.payload ↔ a.kind = b.kind ∧ a.erase = b.erase) ∧
    (Declaration.payload a.declarations = Declaration.payload b.declarations ↔
      a.declarations = b.declarations) ∧
    a.digest = Digest.md5 (a.payload.flatMap String.utf8EncodeChar) ∧
    Declaration.digest a.declarations =
      Digest.md5 ((Declaration.payload a.declarations).flatMap String.utf8EncodeChar) :=
  ⟨payload_eq_iff, ⟨Declaration.payload_inj, congrArg Declaration.payload⟩, digest_eq a,
    Declaration.digest_eq a.declarations⟩

end Rule

end CriticalCss
