import CriticalCss.Proofs.Extraction
import CriticalCss.Proofs.Stylesheet.Content

/-!
# Selector maps as data

A selector map may be given as data, each entry a list of selectors, an object that may hold one,
or nothing. It can be read (`SelectorMap.exists_ofJson?`), and the map that is read lists under a
key what the entry of the key lists (`SelectorMap.mem_selectorsOf_ofJson?`).
-/

namespace CriticalCss

namespace Json

/-- The text in a value; none if the value is no string. -/
def text? : Json → Option String
  | str s => some s
  | _ => none

theorem mapM_text?_eq_some_iff {items : List Json} {texts : List String} :
    items.mapM text? = some texts ↔ items = texts.map str := by
  induction items generalizing texts with
  | nil => cases texts <;> simp
  | cons item items ih =>
    rw [List.mapM_cons]
    cases item with
    | str s =>
      cases texts with
      | nil => simp [text?, Option.bind_eq_some_iff]
      | cons t texts =>
        simp only [text?, Option.bind_eq_bind, Option.bind_some, Option.bind_eq_some_iff, ih,
          Option.pure_def, Option.some.injEq, List.cons.injEq, List.map_cons, Json.str.injEq]
        constructor
        · intro given
          rcases given with ⟨ts, shape, rfl, rfl⟩
          exact ⟨rfl, shape⟩
        · intro given
          rcases given with ⟨rfl, shape⟩
          exact ⟨texts, shape, rfl, rfl⟩
    | _ => cases texts <;> simp [text?]

theorem strings?_eq_some_iff {j : Json} {texts : List String} :
    j.strings? = some texts ↔ j = .strings texts := by
  cases j with
  | arr items =>
    have read : (Json.arr items).strings? = items.mapM text? := rfl
    rw [read, mapM_text?_eq_some_iff, Json.strings, Json.arr.injEq]
  | _ => simp [strings?, Json.strings]

end Json

namespace SelectorMap

/-- The forms of an entry that is given as data: nothing, a list of selectors, or an object with
or without such a list. -/
inductive IsEntry : Json → Prop
  | null : IsEntry .null
  | list (texts : List String) : IsEntry (.strings texts)
  | bare {members : List (String × Json)} :
    members.lookup "selectors" = none → IsEntry (.obj members)
  | member {members : List (String × Json)} {texts : List String} :
    members.lookup "selectors" = some (.strings texts) → IsEntry (.obj members)

/-- An entry that is given as data lists a selector: it is a list that has it, or an object with
such a list. -/
inductive Lists : Json → String → Prop
  | list {texts : List String} {s : String} : s ∈ texts → Lists (.strings texts) s
  | member {members : List (String × Json)} {texts : List String} {s : String} :
    members.lookup "selectors" = some (.strings texts) → s ∈ texts → Lists (.obj members) s

/-- Keys with their entries, as data. -/
def data (entries : List (String × Json)) : Json :=
  .arr (entries.map fun e => .arr [.str e.1, e.2])

theorem exists_entryOfJson? {j : Json} (form : IsEntry j) : ∃ e, entryOfJson? j = some e := by
  have strings (texts : List String) : (Json.strings texts).strings? = some texts :=
    Json.strings?_eq_some_iff.2 rfl
  cases form with
  | null => exact ⟨_, rfl⟩
  | list texts => exact ⟨_, Option.map_eq_some_iff.2 ⟨texts, strings texts, rfl⟩⟩
  | bare missing => exact ⟨_, by rw [entryOfJson?, missing]⟩
  | member found =>
    rw [entryOfJson?, found]
    exact ⟨_, Option.map_eq_some_iff.2 ⟨_, strings _, rfl⟩⟩

theorem mem_selectors_of_entryOfJson? {j : Json} {entry : CriticalEntry}
    (read : entryOfJson? j = some entry) {s : String} : s ∈ entry.selectors ↔ Lists j s := by
  cases j with
  | null =>
    cases read
    refine ⟨nofun, fun listed => ?_⟩
    cases listed
  | arr items =>
    obtain ⟨texts, strings, rfl⟩ := Option.map_eq_some_iff.1 read
    rw [Json.strings?_eq_some_iff.1 strings]
    refine ⟨.list, fun listed => ?_⟩
    generalize shape : Json.strings texts = j at listed
    cases listed with
    | list mem => rwa [Json.strings_inj shape]
    | member => cases shape
  | obj members =>
    unfold entryOfJson? at read
    simp only at read
    split at read
    · rename_i missing
      cases read
      refine ⟨nofun, fun listed => ?_⟩
      cases listed with
      | member found =>
        rw [missing] at found
        cases found
    · rename_i items found
      obtain ⟨texts, strings, rfl⟩ := Option.map_eq_some_iff.1 read
      rw [Json.strings?_eq_some_iff.1 strings] at found
      refine ⟨.member found, fun listed => ?_⟩
      cases listed with
      | member other mem =>
        rw [found, Option.some.injEq] at other
        rwa [Json.strings_inj other]
  | bool | int | float | str => cases read

theorem selectorsOf_set (key other : String) (entry : CriticalEntry) (map : SelectorMap) :
    (map.set key entry).selectorsOf other =
      if other = key then entry.selectors else map.selectorsOf other := by
  induction map with
  | nil => rw [set, Extraction.selectorsOf_cons]
  | cons first rest ih =>
    obtain ⟨known, old⟩ := first
    rw [set]
    split
    · rename_i same
      subst same
      rw [Extraction.selectorsOf_cons, Extraction.selectorsOf_cons]
      split <;> rfl
    · rename_i apart
      rw [Extraction.selectorsOf_cons, Extraction.selectorsOf_cons, ih]
      split
      · rename_i same
        rw [if_neg (same ▸ apart)]
      · rfl

/-- Adds an entry that is given as data. -/
def addEntry? (map : SelectorMap) (e : String × Json) : Option SelectorMap :=
  (entryOfJson? e.2).map fun entry => map.set e.1 entry

theorem ofJson?_data (entries : List (String × Json)) :
    ofJson? (data entries) = entries.foldlM addEntry? [] := by
  rw [data]
  simp only [ofJson?, List.foldlM_map]
  rfl

/-- **A map that is given as data can be read.** -/
theorem exists_ofJson? {entries : List (String × Json)} (forms : ∀ e ∈ entries, IsEntry e.2) :
    ∃ map, ofJson? (data entries) = some map := by
  rw [ofJson?_data]
  generalize ([] : SelectorMap) = start
  induction entries generalizing start with
  | nil => exact ⟨start, rfl⟩
  | cons e entries ih =>
    obtain ⟨entry, own⟩ := exists_entryOfJson? (forms e List.mem_cons_self)
    rw [List.foldlM_cons, addEntry?, own]
    exact ih (fun other mem => forms other (List.mem_cons_of_mem _ mem)) (set e.1 entry start)

theorem mem_selectorsOf_foldlM {entries : List (String × Json)}
    (nodup : (entries.map Prod.fst).Nodup) {start map : SelectorMap}
    (read : entries.foldlM addEntry? start = some map) {key s : String} :
    s ∈ map.selectorsOf key ↔
      (∃ j, (key, j) ∈ entries ∧ Lists j s) ∨
        key ∉ entries.map Prod.fst ∧ s ∈ start.selectorsOf key := by
  induction entries generalizing start with
  | nil =>
    cases read
    simp
  | cons e entries ih =>
    obtain ⟨known, j⟩ := e
    rw [List.map_cons, List.nodup_cons] at nodup
    rw [List.foldlM_cons] at read
    obtain ⟨next, first, rest⟩ := Option.bind_eq_some_iff.1 read
    obtain ⟨entry, own, rfl⟩ := Option.map_eq_some_iff.1 first
    rw [ih nodup.2 rest, selectorsOf_set, List.map_cons, List.mem_cons]
    by_cases same : key = known
    · subst same
      have fresh : ∀ i, (key, i) ∉ entries :=
        fun i mem => nodup.1 (List.mem_map.2 ⟨_, mem, rfl⟩)
      simp [fresh, nodup.1, mem_selectors_of_entryOfJson? own]
    · simp [same]

/-- **What a map that is given as data lists.** -/
theorem mem_selectorsOf_ofJson? {entries : List (String × Json)}
    (nodup : (entries.map Prod.fst).Nodup) {map : SelectorMap}
    (read : ofJson? (data entries) = some map) {key s : String} :
    s ∈ map.selectorsOf key ↔ ∃ j, (key, j) ∈ entries ∧ Lists j s := by
  rw [ofJson?_data] at read
  rw [mem_selectorsOf_foldlM nodup read]
  simp [selectorsOf]

end SelectorMap

end CriticalCss
