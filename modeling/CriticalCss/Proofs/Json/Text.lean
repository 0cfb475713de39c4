import CriticalCss.Json.Printer
import CriticalCss.Json.Reader

/-!
# JSON text tells values apart

The text of a value ends where the value ends: no text of a value without numbers is the beginning
of another one's. So `Json.text` is injective on such values, whatever follows them.

A character of a string literal is told from what follows it by `unquote`, which reads one
character back; the literal ends at the first quote that is not escaped.
-/

namespace CriticalCss.Json

/-! ## Characters of a string literal -/

theorem hexValue?_hexDigit (n : Nat) : Reader.hexValue? (hexDigit n) = some (n % 16) := by
  have all : ∀ d < 16, Reader.hexValue? (Nat.digitChar d) = some d := by decide
  exact all (n % 16) (Nat.mod_lt n (by decide))

/-- The four digits of an escape give its unit back. -/
theorem unit?_hexDigits {unit : Nat} (bound : unit < 65536) :
    Reader.unit? (hexDigit (unit / 4096)) (hexDigit (unit / 256)) (hexDigit (unit / 16))
      (hexDigit unit) = some unit := by
  simp only [Reader.unit?, hexValue?_hexDigit, Option.bind_eq_bind, Option.bind_some,
    Option.pure_def, Option.some.injEq]
  omega

/-- One character of a string literal, read back, and what follows it. -/
def unquote : List Char → Option (Char × List Char)
  | '\\' :: 'u' :: a :: b :: c :: d :: rest => do
    let high ← Reader.unit? a b c d
    if 0xD800 ≤ high ∧ high < 0xDC00 then
      match rest with
      | '\\' :: 'u' :: e :: f :: g :: h :: rest =>
        return (Reader.ofPair high (← Reader.unit? e f g h), rest)
      | _ => none
    else return (Char.ofNat high, rest)
  | '\\' :: c :: rest => (Reader.escaped? c).map fun plain => (plain, rest)
  | c :: rest => some (c, rest)
  | [] => none

theorem unquote_unitEscape_append {unit : Nat} (bound : unit < 65536)
    (single : ¬(0xD800 ≤ unit ∧ unit < 0xDC00)) (rest : List Char) :
    unquote (unitEscape unit ++ rest) = some (Char.ofNat unit, rest) := by
  simp only [unitEscape, List.cons_append, List.nil_append, unquote, unit?_hexDigits bound,
    Option.bind_eq_bind, Option.bind_some, if_neg single, Option.pure_def]

/-- The two units of a character outside the first plane give the character back. -/
theorem unquote_pair_append {offset : Nat} (bound : offset < 0x100000) (rest : List Char) :
    unquote (unitEscape (0xD800 + offset / 0x400) ++
        (unitEscape (0xDC00 + offset % 0x400) ++ rest)) =
      some (Char.ofNat (0x10000 + offset), rest) := by
  have high : 0xD800 + offset / 0x400 < 65536 := by omega
  have low : 0xDC00 + offset % 0x400 < 65536 := by omega
  have isHigh : 0xD800 ≤ 0xD800 + offset / 0x400 ∧ 0xD800 + offset / 0x400 < 0xDC00 := by omega
  have whole : 0x10000 + (0xD800 + offset / 0x400 - 0xD800) * 0x400 +
      (0xDC00 + offset % 0x400 - 0xDC00) = 0x10000 + offset := by omega
  simp only [unitEscape, List.cons_append, List.nil_append, unquote, unit?_hexDigits high,
    unit?_hexDigits low, Option.bind_eq_bind, Option.bind_some, if_pos isHigh, Option.pure_def,
    Reader.ofPair, whole]

/-- A quoted character is read back, whatever follows it. -/
theorem unquote_quoteChar_append (c : Char) (rest : List Char) :
    unquote (quoteChar c ++ rest) = some (c, rest) := by
  have valid : c.toNat < 0xD800 ∨ 0xE000 ≤ c.toNat ∧ c.toNat < 0x110000 := by
    have := c.valid
    simp only [UInt32.isValidChar, Nat.isValidChar] at this
    simp only [Char.toNat]
    omega
  -- the cases in the order of the definition; the seven short escapes come first
  rw [quoteChar]
  by_cases mark : c = '"'
  · subst mark; rfl
  rw [if_neg mark]
  by_cases slash : c = '\\'
  · subst slash; rfl
  rw [if_neg slash]
  by_cases newline : c = '\n'
  · subst newline; rfl
  rw [if_neg newline]
  by_cases carriage : c = '\r'
  · subst carriage; rfl
  rw [if_neg carriage]
  by_cases tab : c = '\t'
  · subst tab; rfl
  rw [if_neg tab]
  by_cases feed : c = '\x0c'
  · subst feed; rfl
  rw [if_neg feed]
  by_cases back : c = '\x08'
  · subst back; rfl
  rw [if_neg back]
  by_cases control : c.toNat < 0x20
  · rw [if_pos control, unquote_unitEscape_append (by omega) (by omega), Char.ofNat_toNat]
  rw [if_neg control]
  by_cases plain : c.toNat < 0x7F
  · rw [if_pos plain, List.singleton_append, unquote]
    · intro _ _ _ _ _ starts _
      exact slash starts
    · intro _ _ starts _
      exact slash starts
  rw [if_neg plain]
  by_cases inPlane : c.toNat < 0x10000
  · rw [if_pos inPlane, unquote_unitEscape_append (by omega) (by omega), Char.ofNat_toNat]
  · rw [if_neg inPlane]
    simp only [List.append_assoc]
    rw [unquote_pair_append (by omega), Nat.add_sub_cancel' (by omega), Char.ofNat_toNat]

/-! ## String literals -/

/-- The closing quote of a literal begins no quoted character. -/
theorem quoteChar_append_ne (c : Char) (x y : List Char) : quoteChar c ++ x ≠ '"' :: y := by
  intro same
  have read := unquote_quoteChar_append c x
  rw [same] at read
  obtain ⟨rfl, rfl⟩ : '"' = c ∧ y = x := by simpa [unquote] using read
  simp [quoteChar] at same

/-- Two literals that begin the same text are one literal. -/
theorem quoteBody_append_inj {cs ds x y : List Char}
    (same : cs.flatMap quoteChar ++ '"' :: x = ds.flatMap quoteChar ++ '"' :: y) :
    cs = ds ∧ x = y := by
  induction cs generalizing ds with
  | nil =>
    cases ds with
    | nil => exact ⟨rfl, (List.cons.inj same).2⟩
    | cons d ds =>
      rw [List.flatMap_cons, List.append_assoc] at same
      exact (quoteChar_append_ne d _ _ same.symm).elim
  | cons c cs ih =>
    cases ds with
    | nil =>
      rw [List.flatMap_cons, List.append_assoc] at same
      exact (quoteChar_append_ne c _ _ same).elim
    | cons d ds =>
      rw [List.flatMap_cons, List.append_assoc, List.flatMap_cons, List.append_assoc] at same
      have read := unquote_quoteChar_append c (cs.flatMap quoteChar ++ '"' :: x)
      rw [same, unquote_quoteChar_append, Option.some.injEq, Prod.mk.injEq] at read
      obtain ⟨rfl, rest⟩ := read
      obtain ⟨rfl, tail⟩ := ih rest.symm
      exact ⟨rfl, tail⟩

theorem quote_append_inj {s t : String} {x y : List Char}
    (same : quote s ++ x = quote t ++ y) : s = t ∧ x = y := by
  simp only [quote, List.cons_append, List.append_assoc, List.nil_append, List.cons.injEq,
    true_and] at same
  obtain ⟨chars, rest⟩ := quoteBody_append_inj same
  exact ⟨String.toList_inj.1 chars, rest⟩

/-! ## Values -/

/-- A value without a number, at any depth. -/
def Numberless : Json → Prop
  | int _ | float _ => False
  | arr items => allItems items
  | obj members => allMembers members
  | _ => True
where
  /-- `Numberless` on each item. -/
  allItems : List Json → Prop
    | [] => True
    | item :: rest => Numberless item ∧ allItems rest
  /-- `Numberless` on the value of each member. -/
  allMembers : List (String × Json) → Prop
    | [] => True
    | (_, value) :: rest => Numberless value ∧ allMembers rest

/-- The character that the text of a value without numbers begins with. -/
def lead : Json → Char
  | null => 'n'
  | bool true => 't'
  | bool false => 'f'
  | str _ => '"'
  | arr _ => '['
  | obj _ => '\x7b'
  | int _ | float _ => '0'

theorem exists_text_eq {a : Json} (plain : a.Numberless) : ∃ t, a.text = a.lead :: t := by
  cases a with
  | null => exact ⟨_, rfl⟩
  | bool b => cases b <;> exact ⟨_, rfl⟩
  | int n => cases plain
  | float v => cases plain
  | str s => exact ⟨_, rfl⟩
  | arr items => cases items <;> exact ⟨_, rfl⟩
  | obj members => cases members <;> exact ⟨_, rfl⟩

theorem lead_eq_of_text {a b : Json} (ha : a.Numberless) (hb : b.Numberless) {x y : List Char}
    (same : a.text ++ x = b.text ++ y) : a.lead = b.lead := by
  obtain ⟨t, ht⟩ := exists_text_eq ha
  obtain ⟨u, hu⟩ := exists_text_eq hb
  rw [ht, hu] at same
  exact (List.cons.inj same).1

/-- The text of a value does not begin like the end of an array. -/
theorem text_append_ne {a : Json} (plain : a.Numberless) (x y : List Char) :
    a.text ++ x ≠ ']' :: y := by
  intro same
  obtain ⟨t, ht⟩ := exists_text_eq plain
  rw [ht] at same
  have leads := (List.cons.inj same).1
  cases a with
  | bool b => cases b <;> simp [lead] at leads
  | int | float => cases plain
  | null | str | arr | obj => simp [lead] at leads

/-- The second value is of the kind of the first one, and the same if the kind has few values. -/
def Alike : Json → Json → Prop
  | null, b => b = null
  | bool v, b => b = bool v
  | str _, b => ∃ t, b = str t
  | arr _, b => ∃ items, b = arr items
  | obj _, b => ∃ members, b = obj members
  | int _, _ | float _, _ => True

/-- The first character tells the kind of a value. -/
theorem alike_of_text {a b : Json} (ha : a.Numberless) (hb : b.Numberless) {x y : List Char}
    (same : a.text ++ x = b.text ++ y) : a.Alike b := by
  have leads := lead_eq_of_text ha hb same
  rcases a with _ | (_ | _) | _ | _ | _ | _ | _ <;>
    rcases b with _ | (_ | _) | _ | _ | _ | _ | _ <;> simp [lead, Alike] at leads ⊢

mutual

/-- **A text tells its value.** Two values without numbers whose texts begin the same text are
equal, and so is what follows them. -/
theorem text_append_inj : ∀ {a b : Json}, a.Numberless → b.Numberless → ∀ {x y : List Char},
    a.text ++ x = b.text ++ y → a = b ∧ x = y
  | .int _, _, ha, _, _, _, _ | .float _, _, ha, _, _, _, _ => ha.elim
  | .null, _, ha, hb, _, _, same => by
    obtain rfl := alike_of_text ha hb same
    exact ⟨rfl, List.append_cancel_left same⟩
  | .bool _, _, ha, hb, _, _, same => by
    obtain rfl := alike_of_text ha hb same
    exact ⟨rfl, List.append_cancel_left same⟩
  | .str s, _, ha, hb, _, _, same => by
    obtain ⟨t, rfl⟩ := alike_of_text ha hb same
    obtain ⟨rfl, rest⟩ := quote_append_inj same
    exact ⟨rfl, rest⟩
  | .arr [], _, ha, hb, _, _, same => by
    obtain ⟨bs, rfl⟩ := alike_of_text ha hb same
    cases bs with
    | nil => exact ⟨rfl, List.append_cancel_left same⟩
    | cons b bs =>
      simp only [text, List.cons_append, List.cons.injEq, true_and, List.append_assoc] at same
      exact (text_append_ne hb.1 _ _ same.symm).elim
  | .arr (a :: as), _, ha, hb, _, _, same => by
    obtain ⟨bs, rfl⟩ := alike_of_text ha hb same
    cases bs with
    | nil =>
      simp only [text, List.cons_append, List.cons.injEq, true_and, List.append_assoc] at same
      exact (text_append_ne ha.1 _ _ same).elim
    | cons b bs =>
      simp only [text, List.cons_append, List.cons.injEq, true_and, List.append_assoc] at same
      obtain ⟨rfl, tail⟩ := text_append_inj ha.1 hb.1 same
      obtain ⟨rfl, rest⟩ := textItems_append_inj ha.2 hb.2 tail
      exact ⟨rfl, rest⟩
  | .obj [], _, ha, hb, _, _, same => by
    obtain ⟨bs, rfl⟩ := alike_of_text ha hb same
    cases bs with
    | nil => exact ⟨rfl, List.append_cancel_left same⟩
    | cons b bs => simp [text, quote] at same
  | .obj ((m, a) :: as), _, ha, hb, _, _, same => by
    obtain ⟨bs, rfl⟩ := alike_of_text ha hb same
    cases bs with
    | nil => simp [text, quote] at same
    | cons b bs =>
      simp only [text, List.cons_append, List.cons.injEq, true_and, List.append_assoc] at same
      obtain ⟨rfl, afterName⟩ := quote_append_inj same
      obtain ⟨rfl, tail⟩ := text_append_inj ha.1 hb.1 (List.cons.inj afterName).2
      obtain ⟨rfl, rest⟩ := textMembers_append_inj ha.2 hb.2 tail
      exact ⟨rfl, rest⟩

theorem textItems_append_inj : ∀ {as bs : List Json}, Numberless.allItems as →
    Numberless.allItems bs → ∀ {x y : List Char},
    text.textItems as ++ x = text.textItems bs ++ y → as = bs ∧ x = y
  | [], [], _, _, _, _, same => ⟨rfl, (List.cons.inj same).2⟩
  | [], _ :: _, _, _, _, _, same => by simp [text.textItems] at same
  | _ :: _, [], _, _, _, _, same => by simp [text.textItems] at same
  | a :: as, b :: bs, ha, hb, _, _, same => by
    simp only [text.textItems, List.cons_append, List.cons.injEq, true_and,
      List.append_assoc] at same
    obtain ⟨rfl, tail⟩ := text_append_inj ha.1 hb.1 same
    obtain ⟨rfl, rest⟩ := textItems_append_inj ha.2 hb.2 tail
    exact ⟨rfl, rest⟩

theorem textMembers_append_inj : ∀ {as bs : List (String × Json)}, Numberless.allMembers as →
    Numberless.allMembers bs → ∀ {x y : List Char},
    text.textMembers as ++ x = text.textMembers bs ++ y → as = bs ∧ x = y
  | [], [], _, _, _, _, same => ⟨rfl, (List.cons.inj same).2⟩
  | [], (_, _) :: _, _, _, _, _, same => by simp [text.textMembers] at same
  | (_, _) :: _, [], _, _, _, _, same => by simp [text.textMembers] at same
  | (m, a) :: as, (n, b) :: bs, ha, hb, _, _, same => by
    simp only [text.textMembers, List.cons_append, List.cons.injEq, true_and,
      List.append_assoc] at same
    obtain ⟨rfl, afterName⟩ := quote_append_inj same
    obtain ⟨rfl, tail⟩ := text_append_inj ha.1 hb.1 (List.cons.inj afterName).2
    obtain ⟨rfl, rest⟩ := textMembers_append_inj ha.2 hb.2 tail
    exact ⟨rfl, rest⟩

end

theorem text_inj {a b : Json} (ha : a.Numberless) (hb : b.Numberless)
    (same : a.text = b.text) : a = b :=
  (text_append_inj ha hb (x := []) (y := []) (by rw [same])).1

end CriticalCss.Json
