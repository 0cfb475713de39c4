import CriticalCss.Proofs.Assembly.Other
import CriticalCss.Proofs.Removal
import CriticalCss.Proofs.RuleMap.Materialize

/-!
# What is handed to the printer

Putting the pages of a stylesheet that was read together cannot fail before the texts are
finished, and no step of it makes an empty rule (`Assembly.assemble_finishes`). What carries the
argument is an invariant of rule maps: `Rule.Fits key r` says that the map may hold `r` under
`key`. The parts of the pages contribute rules that fit, taking selectors away leaves rules that
fit, and a map of rules that fit gives a stylesheet of finished rules.
-/

namespace CriticalCss

open CriticalCss.Partition

/-! ## Rules that may be written -/

namespace Rule

/-- What a group of a finished stylesheet holds: a style rule with selectors and declarations, or
a verbatim at-rule. -/
inductive IsBody : Rule → Prop
  | style {r : StyleRule} : r.HasSelectors → r.declarations ≠ [] → IsBody (style r)
  | atRule (a : AtRule) : IsBody (atRule a)

/-- A rule of a finished stylesheet. Nothing in it is empty but a charset or keyframes. -/
inductive IsFinished : Rule → Prop
  | body {r : Rule} : r.IsBody → IsFinished r
  | group {kind : GroupKind} {condition : String} {inner : List Rule}
      {position : Option Position} :
    inner ≠ [] → (∀ r ∈ inner, r.IsBody) → IsFinished (group kind condition inner position)
  | fontFace {ds : List Declaration} {position : Option Position} :
    ds ≠ [] → IsFinished (fontFace ds position)
  | charset (c : String) (position : Option Position) : IsFinished (charset c position)
  | keyframes (name vendor : String) (frames : List Keyframe) (position : Option Position) :
    IsFinished (keyframes name vendor frames position)

/-- The rule may be an item of a stylesheet: it is no single keyframe, and a group holds style
rules and verbatim at-rules only. -/
def IsItem (r : Rule) : Prop :=
  r.kind ≠ .keyframe ∧ ∀ q ∈ r.inner, RuleMap.fitsGroup q = true

theorem IsBody.fitsGroup {r : Rule} (body : r.IsBody) : RuleMap.fitsGroup r = true := by
  cases body <;> rfl

theorem IsFinished.isItem {r : Rule} (finished : r.IsFinished) : r.IsItem := by
  cases finished with
  | body body => cases body <;> exact ⟨nofun, nofun⟩
  | @group kind _ _ _ some bodies =>
    refine ⟨?_, fun q mem => (bodies q mem).fitsGroup⟩
    cases kind <;> nofun
  | fontFace | charset | keyframes => exact ⟨nofun, nofun⟩

end Rule

namespace Stylesheet

/-- Every rule of the stylesheet may be written. -/
def IsFinished (sheet : Stylesheet) : Prop :=
  ∀ r ∈ sheet, r.IsFinished

/-- The rules make up a stylesheet: each is of a kind that may stand where it stands. -/
def IsWellFormed (sheet : Stylesheet) : Prop :=
  ∀ r ∈ sheet, r.IsItem

theorem IsFinished.isWellFormed {sheet : Stylesheet} (finished : sheet.IsFinished) :
    sheet.IsWellFormed :=
  fun r mem => (finished r mem).isItem

theorem IsRead.isWellFormed {sheet : Stylesheet} (read : sheet.IsRead) : sheet.IsWellFormed := by
  intro r mem
  cases read r mem with
  | @group kind _ _ _ grouped =>
    refine ⟨by cases kind <;> nofun, fun q inside => ?_⟩
    cases grouped q inside <;> rfl
  | style | atRule | fontFace | charset | keyframes | comment => exact ⟨nofun, nofun⟩

end Stylesheet

/-! ## Vendors of keyframes -/

/-- The marks that keyframes may have in front of their keyword. -/
def Rule.HasVendor : Rule → Prop
  | keyframes _ vendor _ _ => vendor ∈ Stylesheet.keyframesVendors.map Prod.snd
  | _ => True

/-- The rules have the shape that reading gives them, the marks of keyframes included. -/
def Stylesheet.IsParsed (sheet : Stylesheet) : Prop :=
  ∀ r ∈ sheet, r.IsRead ∧ r.HasVendor

theorem Stylesheet.isParsed_of_parse {css : String} {sheet : Stylesheet}
    (h : parse css = .ok sheet) : sheet.IsParsed := by
  have atRule (position : Position) (keyword : List Char) (prelude : List Css.Component)
      (content : Option (List Css.Component)) :
      (readAtRule position keyword prelude content).value.HasVendor := by
    unfold readAtRule
    simp only
    split
    · trivial
    split
    · trivial
    split
    · trivial
    split
    · trivial
    split
    · rename_i vendor known
      exact List.mem_map.2 ⟨_, mem_of_lookup known, rfl⟩
    · trivial
  have shape := isRead_of_parse h
  unfold parse read at h
  split at h
  · cases h
  · cases h
    intro r mem
    refine ⟨shape r mem, ?_⟩
    obtain ⟨node, -, value⟩ := Findings.mem_collect mem
    cases node with
    | comment =>
      cases value
      trivial
    | qualified =>
      obtain ⟨q, -, rfl⟩ := Option.map_eq_some_iff.1 value
      trivial
    | atRule =>
      cases value
      exact atRule _ _ _ _
    | invalid => cases value

/-- The key of keyframes is not taken for the key of a group. -/
theorem isGroupKey_keyframes {vendor : String}
    (known : vendor ∈ Stylesheet.keyframesVendors.map Prod.snd) (name : String) :
    isGroupKey ("@" ++ vendor ++ "keyframes " ++ name) = false := by
  rw [← Bool.not_eq_true, isGroupKey_iff]
  intro given
  obtain ⟨kind, lead⟩ := given
  simp only [Stylesheet.keyframesVendors, List.map_cons, List.map_nil, List.mem_cons,
    List.not_mem_nil, or_false] at known
  rcases known with rfl | rfl | rfl | rfl | rfl <;> cases kind <;>
    simp [GroupKind.keyLead] at lead

/-! ## Rules that fit into a map -/

/-- A rule map may hold the rule under the key: a style rule with selectors or a verbatim at-rule
under any key, another rule only where it is not taken for a part of a group. -/
inductive Rule.Fits (key : String) : Rule → Prop
  | style {r : StyleRule} : r.HasSelectors → Fits key (style r)
  | atRule (a : AtRule) : Fits key (atRule a)
  | fontFace (ds : List Declaration) (position : Option Position) :
    isGroupKey key = false → Fits key (fontFace ds position)
  | charset (c : String) (position : Option Position) :
    isGroupKey key = false → Fits key (charset c position)
  | keyframes (name vendor : String) (frames : List Keyframe) (position : Option Position) :
    isGroupKey key = false → Fits key (keyframes name vendor frames position)

theorem Rule.IsGrouped.fits {r : Rule} (grouped : r.IsGrouped) (key : String) : r.Fits key := by
  cases grouped with
  | style has => exact .style has
  | atRule a => exact .atRule a

/-- Rules of a stylesheet that was read fit under the keys under which they are folded. -/
theorem Stylesheet.IsParsed.fits {sheet : Stylesheet} (parsed : sheet.IsParsed) {key : String}
    {r : Rule} (mem : (key, r) ∈ sheet.contributions) : r.Fits key := by
  obtain ⟨q, origin, contributed⟩ := List.mem_flatMap.1 mem
  obtain ⟨read, vendor⟩ := parsed q origin
  have flat (flat : q.IsFlat) : q = r ∧ r.key? "" = some key :=
    (mem_contributions_of_isFlat flat).1 contributed
  cases read with
  | group grouped =>
    obtain ⟨-, inside⟩ := mem_contributions_group.1 contributed
    exact (grouped r inside).fits key
  | style has =>
    obtain ⟨rfl, -⟩ := flat trivial
    exact .style has
  | atRule a =>
    obtain ⟨rfl, -⟩ := flat trivial
    exact .atRule a
  | fontFace ds position =>
    obtain ⟨rfl, keyed⟩ := flat trivial
    cases keyed
    exact .fontFace ds position (by decide)
  | charset c position =>
    obtain ⟨rfl, keyed⟩ := flat trivial
    cases keyed
    exact .charset c position (by decide)
  | keyframes name mark frames position =>
    obtain ⟨rfl, keyed⟩ := flat trivial
    cases keyed
    exact .keyframes name mark frames position (isGroupKey_keyframes vendor name)
  | comment =>
    obtain ⟨rfl, keyed⟩ := flat trivial
    cases keyed

/-! ## The parts of a page -/

namespace Partition

variable {keep : String → String → Bool} {others : String → Bool} {group : String} {q r : Rule}

theorem hasSelectors_of_narrow {stays : String → Bool} {r left : StyleRule}
    (has : r.HasSelectors) (part : r.narrow stays = some left) : left.HasSelectors := by
  obtain ⟨some, rfl⟩ := StyleRule.narrow_eq_some_iff.1 part
  exact ⟨some, fun s mem => has.2 s (List.mem_filter.1 mem).1⟩

theorem hasSelectors_of_siftStyle {r left : StyleRule} (has : r.HasSelectors)
    (part : siftStyle keep group r = some left) : left.HasSelectors := by
  rw [siftStyle_eq has.1] at part
  exact hasSelectors_of_narrow has part

theorem isGrouped_of_siftRule (grouped : q.IsGrouped)
    (left : siftRule keep others group q = some r) : r.IsGrouped := by
  cases grouped with
  | style has =>
    obtain ⟨part, sifted, rfl⟩ := Option.map_eq_some_iff.1 left
    exact .style (hasSelectors_of_siftStyle has sifted)
  | atRule a =>
    simp only [siftRule] at left
    split at left <;> cases left
    exact .atRule a

/-- What is left of a rule that was read could have been read. -/
theorem isRead_of_siftRule (read : q.IsRead) (left : siftRule keep others group q = some r) :
    r.IsRead := by
  cases read with
  | style has =>
    obtain ⟨part, sifted, rfl⟩ := Option.map_eq_some_iff.1 left
    exact .style (hasSelectors_of_siftStyle has sifted)
  | @group kind condition inner position grouped =>
    rw [siftRule] at left
    obtain ⟨-, rfl⟩ := regroup_eq_some_iff.1 left
    refine .group fun p mem => ?_
    obtain ⟨origin, inside, part⟩ := mem_siftRules.1 mem
    exact isGrouped_of_siftRule (grouped origin inside) part
  | _ =>
    simp only [siftRule] at left
    split at left <;> cases left
    constructor

theorem hasVendor_of_siftRule (vendor : q.HasVendor)
    (left : siftRule keep others group q = some r) : r.HasVendor := by
  cases q with
  | style =>
    obtain ⟨part, -, rfl⟩ := Option.map_eq_some_iff.1 left
    trivial
  | group kind condition inner =>
    rw [siftRule] at left
    obtain ⟨-, rfl⟩ := regroup_eq_some_iff.1 left
    trivial
  | _ =>
    simp only [siftRule] at left
    split at left <;> cases left
    exact vendor

/-- What is sifted out of rules that were read could have been read. -/
theorem isParsed_siftRules {rules : List Rule} (parsed : Stylesheet.IsParsed rules) :
    Stylesheet.IsParsed (siftRules keep others group rules) := by
  intro r mem
  obtain ⟨q, origin, left⟩ := mem_siftRules.1 mem
  obtain ⟨read, vendor⟩ := parsed q origin
  exact ⟨isRead_of_siftRule read left, hasVendor_of_siftRule vendor left⟩

end Partition

theorem Stylesheet.isParsed_partition {sheet : Stylesheet} (parsed : sheet.IsParsed)
    (dropKeyframes : Bool) (map : SelectorMap) :
    IsParsed (sheet.partition dropKeyframes map).1 ∧
      IsParsed (sheet.partition dropKeyframes map).2 := by
  rw [partition_eq]
  exact ⟨isParsed_siftRules fun r mem => parsed r (List.mem_filter.1 mem).1,
    isParsed_siftRules parsed⟩

/-! ## Maps of rules that fit -/

namespace RuleMap

/-- Every rule of the map fits under its key. -/
def IsFit (m : RuleMap) : Prop :=
  ∀ c ∈ m.items, c.2.Fits c.1

theorem isFit_collect {cs : List (String × Rule)} (fits : ∀ c ∈ cs, c.2.Fits c.1) :
    (collect cs).IsFit :=
  fun c mem => fits c (mem_of_mem_items_collect mem)

/-- What is left of a rule that fits, fits under the key under which it is added. -/
theorem fits_of_leftover {known : List Identity} {reference : RuleMap} {key : String}
    {e : RuleMapEntry} (fits : e.rule.Fits key) {c : String × Rule}
    (left : leftover known reference key e = some c) : c.2.Fits c.1 := by
  unfold leftover at left
  cases shape : e.rule with
  | style r =>
    rw [shape] at left fits
    obtain ⟨part, narrowed, rfl⟩ := Option.map_eq_some_iff.1 left
    cases fits with
    | style has => exact .style (hasSelectors_of_narrow has narrowed)
  | _ =>
    rw [shape] at left fits
    simp only at left
    split at left <;> cases left
    exact fits

theorem fits_of_mem_leftovers {m reference : RuleMap} (fit : m.IsFit) {c : String × Rule}
    (mem : c ∈ m.leftovers reference) : c.2.Fits c.1 := by
  obtain ⟨⟨key, es⟩, inside, found⟩ := List.mem_flatMap.1 mem
  obtain ⟨e, deeper, left⟩ := List.mem_filterMap.1 found
  exact fits_of_leftover (fit (key, e.rule) (mem_items.2 ⟨es, inside, e, deeper, rfl⟩)) left

/-- A rule that fits under the key of a group and is worth writing may be in the group. -/
theorem isBody_of_fits {key : String} {r : Rule} (fits : r.Fits key)
    (worth : r.isEmittable = true) (group : isGroupKey key = true) : r.IsBody := by
  cases fits with
  | style has =>
    rw [Rule.isEmittable_style, decide_eq_true_eq] at worth
    exact .style has worth
  | atRule a => exact .atRule a
  | fontFace | charset | keyframes =>
    rename_i apart
    rw [group] at apart
    cases apart

theorem isFinished_of_fits {key : String} {r : Rule} (fits : r.Fits key)
    (worth : r.isEmittable = true) : r.IsFinished := by
  cases fits with
  | style has =>
    rw [Rule.isEmittable_style, decide_eq_true_eq] at worth
    exact .body (.style has worth)
  | atRule a => exact .body (.atRule a)
  | fontFace ds position =>
    refine .fontFace fun empty => ?_
    subst empty
    cases worth
  | charset c position => exact .charset c position
  | keyframes name vendor frames position => exact .keyframes name vendor frames position

/-- **A map of rules that fit gives a finished stylesheet.** -/
theorem IsFit.isFinished_toSheet {m : RuleMap} (fit : m.IsFit) :
    Stylesheet.IsFinished m.toSheet := by
  intro r mem
  obtain ⟨⟨key, es⟩, inside, shown⟩ := List.mem_flatMap.1 mem
  have worth : ∀ q ∈ (es.map (·.rule)).filter Rule.isEmittable,
      q.Fits key ∧ q.isEmittable = true := by
    intro q written
    obtain ⟨item, emittable⟩ := mem_items_of_emittable inside written
    exact ⟨fit (key, q) item, emittable⟩
  rcases mem_rulesOf.1 shown with ⟨-, own⟩ | ⟨kind, condition, named, some, rfl⟩
  · obtain ⟨fits, emittable⟩ := worth r own
    exact isFinished_of_fits fits emittable
  · have group : isGroupKey key = true := by rw [isGroupKey, named, Option.isSome_some]
    refine .group some fun q written => ?_
    obtain ⟨fits, emittable⟩ := worth q written
    exact isBody_of_fits fits emittable group

end RuleMap

/-! ## Removing selectors -/

namespace Rule

variable {patterns : List String}

theorem mem_removeAll {rules : List Rule} {r : Rule} :
    r ∈ removeSelectors?.removeAll patterns rules ↔
      ∃ q ∈ rules, q.removeSelectors? patterns = some r := by
  induction rules with
  | nil => simp [removeSelectors?.removeAll]
  | cons q rest ih => simp [removeSelectors?.removeAll, ih]

theorem IsBody.removeSelectors? {r left : Rule} (body : r.IsBody)
    (kept : r.removeSelectors? patterns = some left) : left.IsBody := by
  cases body with
  | @style r has some =>
    simp only [Rule.removeSelectors?] at kept
    split at kept
    · cases kept
      exact .style has some
    split at kept
    · cases kept
    · rename_i left
      cases kept
      refine .style ⟨by simpa using left, fun s mem => ?_⟩ some
      exact has.2 s (List.mem_filter.1 mem).1
  | atRule a =>
    cases kept
    exact .atRule a

/-- What is left of a rule that may be written, may be written. -/
theorem IsFinished.removeSelectors? {r left : Rule} (finished : r.IsFinished)
    (kept : r.removeSelectors? patterns = some left) : left.IsFinished := by
  cases finished with
  | body body => exact .body (body.removeSelectors? kept)
  | @group kind condition inner position _ bodies =>
    rw [removeSelectors?_group] at kept
    obtain ⟨some, rfl⟩ := regroup_eq_some_iff.1 kept
    refine .group some fun q mem => ?_
    obtain ⟨origin, inside, part⟩ := mem_removeAll.1 mem
    exact (bodies origin inside).removeSelectors? part
  | fontFace some =>
    cases kept
    exact .fontFace some
  | charset c position =>
    cases kept
    exact .charset c position
  | keyframes name vendor frames position =>
    cases kept
    exact .keyframes name vendor frames position

end Rule

theorem Stylesheet.IsFinished.removeSelectors {sheet : Stylesheet} (finished : sheet.IsFinished)
    (patterns : List String) : (sheet.removeSelectors patterns).IsFinished := by
  unfold Stylesheet.removeSelectors
  split
  · exact finished
  · intro r mem
    obtain ⟨q, origin, kept⟩ := Rule.mem_removeAll.1 mem
    exact (finished q origin).removeSelectors? kept

/-! ## Putting the pages together -/

namespace Assembly

variable {sheet : Stylesheet} {dropKeyframes : Bool} {pages : List (String × SelectorMap)}

theorem isFit_criticalOf (parsed : sheet.IsParsed) :
    (criticalOf (sheet.onPages dropKeyframes pages)).IsFit := by
  refine RuleMap.isFit_collect fun c mem => ?_
  obtain ⟨result, onPage, contributed⟩ := List.mem_flatMap.1 mem
  obtain ⟨page, -, rfl⟩ := List.mem_map.1 onPage
  exact (Stylesheet.isParsed_partition parsed dropKeyframes page.2).1.fits contributed

theorem isFit_restOf (parsed : sheet.IsParsed) :
    (restOf (sheet.onPages dropKeyframes pages)).IsFit := by
  refine RuleMap.isFit_collect fun c mem => RuleMap.fits_of_mem_leftovers ?_ mem
  refine RuleMap.isFit_collect fun c mem => ?_
  obtain ⟨result, onPage, contributed⟩ := List.mem_flatMap.1 mem
  obtain ⟨page, -, rfl⟩ := List.mem_map.1 onPage
  exact (Stylesheet.isParsed_partition parsed dropKeyframes page.2).2.fits contributed

/-- Once both maps have come about, only texts are left to be finished. -/
theorem assemble_of_maps {options : AssemblyOptions} {pages : List PageResult}
    {critical rest : RuleMap} (first : criticalMap pages = .ok critical)
    (second : restMap pages critical = .ok rest) :
    assemble options pages = do
      let criticalText ← finished (critical.toSheet.removeSelectors options.remove)
      if options.withRest then return ⟨criticalText, ← finished rest.toSheet⟩
      else return ⟨criticalText, ""⟩ := by
  unfold assemble
  simp only [first, second, Except.mapError, bind, Except.bind]

theorem maxDigits_lt_of_finalize {order : MediaOrder} {css : String} {e : Stylesheet.Oversized}
    (failed : Stylesheet.finalize order css = .error e) : Stylesheet.maxDigits < e.digits := by
  unfold Stylesheet.finalize Stylesheet.sortMediaText at failed
  split at failed
  · cases failed
  · cases outcome : Stylesheet.parse (minify css) with
    | ok sheet =>
      rw [outcome] at failed
      cases failed
    | error e' =>
      rw [outcome] at failed
      cases failed
      exact Stylesheet.maxDigits_lt_of_parse outcome

/-- Finishing a text fails for no other reason than its integers. -/
theorem exists_oversized_of_finished {part : Stylesheet} {cause : AssemblyError}
    (failed : finished part = .error cause) :
    ∃ known, cause = .oversized known ∧ Stylesheet.maxDigits < known.digits := by
  unfold finished at failed
  cases outcome : Stylesheet.finalize .mobileFirst (part.print .pretty) with
  | ok text =>
    rw [outcome] at failed
    cases failed
  | error known =>
    rw [outcome] at failed
    cases failed
    exact ⟨known, rfl, maxDigits_lt_of_finalize outcome⟩

theorem exists_oversized_of_assemble {options : AssemblyOptions} {pages : List PageResult}
    {critical rest : RuleMap} (first : criticalMap pages = .ok critical)
    (second : restMap pages critical = .ok rest) {cause : AssemblyError}
    (failed : assemble options pages = .error cause) :
    ∃ known, cause = .oversized known ∧ Stylesheet.maxDigits < known.digits := by
  rw [assemble_of_maps first second] at failed
  cases criticalText : finished (critical.toSheet.removeSelectors options.remove) with
  | error e =>
    rw [criticalText] at failed
    cases failed
    exact exists_oversized_of_finished criticalText
  | ok text =>
    simp only [criticalText, bind, Except.bind] at failed
    split at failed
    · cases restText : finished rest.toSheet with
      | error e =>
        rw [restText] at failed
        cases failed
        exact exists_oversized_of_finished restText
      | ok =>
        rw [restText] at failed
        cases failed
    · cases failed

theorem assemble_ne_fold {options : AssemblyOptions} {pages : List PageResult}
    {critical rest : RuleMap} (first : criticalMap pages = .ok critical)
    (second : restMap pages critical = .ok rest) (cause : FoldError) :
    assemble options pages ≠ .error (.fold cause) := by
  intro failed
  obtain ⟨known, no, -⟩ := exists_oversized_of_assemble first second failed
  cases no

/-- **Putting pages together comes to texts of finished stylesheets.** Whatever the pages find
critical, the parts of every page are well-formed, both maps come about, and what is finished are
the texts of two stylesheets without an empty group, an empty selector, or a style rule or font
without declarations; only finishing a text can fail. -/
theorem assemble_finishes {css : String} (read : Stylesheet.parse css = .ok sheet)
    (dropKeyframes : Bool) (pages : List (String × SelectorMap)) (remove : List String) :
    let results := sheet.onPages dropKeyframes pages
    (∀ result ∈ results, result.critical.IsWellFormed ∧ result.rest.IsWellFormed) ∧
      ∃ critical rest, criticalMap results = .ok critical ∧ restMap results critical = .ok rest ∧
        critical.toSheet.IsWellFormed ∧
        (critical.toSheet.removeSelectors remove).IsFinished ∧ rest.toSheet.IsFinished ∧
        ∀ withRest, (assemble ⟨remove, withRest⟩ results = do
            let criticalText ← finished (critical.toSheet.removeSelectors remove)
            if withRest then return ⟨criticalText, ← finished rest.toSheet⟩
            else return ⟨criticalText, ""⟩) ∧
          ∀ cause, assemble ⟨remove, withRest⟩ results ≠ .error (.fold cause) := by
  intro results
  have shape := Stylesheet.isRead_of_parse read
  have parsed := Stylesheet.isParsed_of_parse read
  have first : criticalMap results = .ok (criticalOf results) :=
    criticalMap_eq shape dropKeyframes pages
  have second : restMap results (criticalOf results) = .ok (restOf results) :=
    restMap_eq shape dropKeyframes pages
  have criticalFinished : (criticalOf results).toSheet.IsFinished :=
    (isFit_criticalOf parsed).isFinished_toSheet
  have restFinished : (restOf results).toSheet.IsFinished :=
    (isFit_restOf parsed).isFinished_toSheet
  refine ⟨fun result onPage => ?_, _, _, first, second, criticalFinished.isWellFormed,
    criticalFinished.removeSelectors remove, restFinished, fun withRest =>
      ⟨assemble_of_maps first second, assemble_ne_fold first second⟩⟩
  obtain ⟨page, -, rfl⟩ := List.mem_map.1 onPage
  have parts := Stylesheet.isParsed_partition parsed dropKeyframes page.2
  exact ⟨Stylesheet.IsRead.isWellFormed fun r mem => (parts.1 r mem).1,
    Stylesheet.IsRead.isWellFormed fun r mem => (parts.2 r mem).1⟩

/-- One page finds one of two selectors critical; the other selector, which must not be critical,
is removed, the empty font is left out, and a selector passes for the key of a group. -/
theorem assemble_finishes_of_one_page :
    let css := "@font-face \x7b\x7d,@media p \x7b c: d \x7d" ++
      "@media q \x7b .a, .b \x7b c: d \x7d .e \x7b\x7d \x7d"
    let sheet : Stylesheet :=
      [.fontFace [] (some ⟨1, 1⟩), .style ⟨["@media p"], [⟨"c", "d"⟩], some ⟨1, 14⟩⟩,
        .group .media "q" [.style ⟨[".a", ".b"], [⟨"c", "d"⟩], some ⟨1, 43⟩⟩,
          .style ⟨[".e"], [], some ⟨1, 59⟩⟩] (some ⟨1, 32⟩)]
    let pages : List (String × SelectorMap) :=
      [("u", [("@media q.a,.b", ⟨[".a", ".b"], none, none⟩)])]
    let results := sheet.onPages true pages
    Stylesheet.parse css = .ok sheet ∧
      ∃ critical rest, criticalMap results = .ok critical ∧ restMap results critical = .ok rest ∧
        (critical.toSheet.removeSelectors [".b"]).IsFinished ∧ rest.toSheet.IsFinished := by
  intro css sheet pages results
  have read : Stylesheet.parse css = .ok sheet := by decide +kernel
  obtain ⟨-, critical, rest, first, second, -, criticalFinished, restFinished, -⟩ :=
    assemble_finishes read true pages [".b"]
  exact ⟨read, critical, rest, first, second, criticalFinished, restFinished⟩

end Assembly

end CriticalCss
