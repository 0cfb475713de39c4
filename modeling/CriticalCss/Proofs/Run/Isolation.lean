import CriticalCss.Proofs.Options.Standard
import CriticalCss.Proofs.Run.Outcome

/-!
# Pages do not harm each other

Each page of a run comes to one outcome, and the outcomes stand in the order of the pages, whatever
order they come in; never more pages are evaluated at a time than the options allow. What a run
with a given stylesheet makes of the outcomes depends on the pages that succeed alone
(`Run.Settles`): a run for these pages only gives the same texts (`Run.under_isolates_pages`).

There is one case in which the run gives neither texts nor the error of a run without critical
rules: where the texts of the pages cannot be finished because of their integers.
-/

namespace CriticalCss

open Dialogue

/-- The options for other pages. -/
def RunOptions.forUrls (o : RunOptions) (first : String) (others : List String) : RunOptions :=
  { o with firstUrl := first, otherUrls := others }

namespace Run

variable {d : Pool.Discipline BrowserCall} {o : RunOptions} {s : Session} {sheet : Stylesheet}
  {urls : List String} {outcomes : List PageOutcome} {t : List Event}

/-! ## One outcome for each page -/

/-- The page that an outcome is about. -/
def urlOf : Except UrlFailure PageResult → String
  | .ok page => page.url
  | .error failure => failure.url

theorem urlOf_of_course_attempt {url : String} {outcome : Except UrlFailure PageResult}
    (course : (attempt o s sheet url).Course t outcome) : urlOf outcome = url := by
  obtain ⟨cause | page, evaluated, rfl⟩ := course_attempt_iff.1 course
  · rfl
  · obtain ⟨map, rfl⟩ := exists_ofMap_of_course_evaluate evaluated
    rfl

theorem map_urlOf (comes : Comes o s sheet urls outcomes) :
    (outcomes.map (·.2)).map urlOf = urls := by
  induction comes with
  | nil => rfl
  | cons own _ ih => exact congrArg₂ List.cons (urlOf_of_course_attempt own) ih

/-- The pages that succeed come to the same outcomes without those that fail. -/
theorem exists_succeeding (comes : Comes o s sheet urls outcomes) :
    ∃ kept, Comes o s sheet ((succeeded (outcomes.map (·.2))).map (·.url)) kept ∧
      kept.map (·.2) = (succeeded (outcomes.map (·.2))).map .ok := by
  induction comes with
  | nil => exact ⟨[], .nil, rfl⟩
  | @cons url outcome urls outcomes own _ ih =>
    obtain ⟨kept, comes, same⟩ := ih
    obtain ⟨events, value⟩ := outcome
    cases value with
    | error failure => exact ⟨kept, comes, same⟩
    | ok page =>
      have listed : page.url = url := urlOf_of_course_attempt own
      subst listed
      exact ⟨(events, .ok page) :: kept, .cons own comes, congrArg (Except.ok page :: ·) same⟩

/-! ## What is made of the outcomes -/

theorem succeeded_map_ok (pages : List PageResult) : succeeded (pages.map .ok) = pages := by
  rw [succeeded, List.filterMap_map]
  exact List.filterMap_some

theorem failed_map_ok (pages : List PageResult) : failed (pages.map .ok) = [] := by
  rw [failed, List.filterMap_map, List.filterMap_eq_nil_iff]
  exact fun _ _ => rfl

/-- What a run makes of the outcomes of its pages. -/
structure Settles (o : RunOptions) (values : List (Except UrlFailure PageResult))
    (outcome : Except RunError RunResult) : Prop where
  /-- Without a page that succeeds, or without a critical text, nothing is extracted, and only
  then. -/
  extraction : (∃ e, outcome = .error e ∧ e.label = "ExtractionError") ↔
    succeeded values = [] ∨
      ∃ output, assemble (assemblyOptions o) (succeeded values) = .ok output ∧ output.critical = ""
  /-- The error tells all pages that failed, in their order. -/
  failures : ∀ e, outcome = .error e → e.label = "ExtractionError" →
    e.failures? = some (failed values)
  /-- Otherwise the run gives the texts of the pages that succeeded, and tells the others. -/
  result : succeeded values ≠ [] → ∀ output,
    assemble (assemblyOptions o) (succeeded values) = .ok output → output.critical ≠ "" →
      outcome = .ok ⟨output, failed values⟩
  /-- Texts that cannot be finished, for too long an integer in them, are the exception. -/
  oversized : succeeded values ≠ [] → ∀ cause,
    assemble (assemblyOptions o) (succeeded values) = .error cause →
      outcome = .error (.assembly cause) ∧
        ∃ known, cause = .oversized known ∧ Stylesheet.maxDigits < known.digits

/-- What comes of pages of which one has a critical rule. -/
theorem conclude_of_assembled {values : List (Except UrlFailure PageResult)} {output : Output}
    (some : succeeded values ≠ [])
    (assembled : assemble (assemblyOptions o) (succeeded values) = .ok output)
    (critical : output.critical ≠ "") : conclude o values = .ok ⟨output, failed values⟩ := by
  rw [conclude, if_neg (by simpa using some), assembled]
  exact if_neg critical

theorem settles_conclude {css : String}
    (comes : Comes o ⟨true, true⟩ (sheetOfText css) o.urls outcomes) :
    Settles o (outcomes.map (·.2)) (conclude o (outcomes.map (·.2))) := by
  have fails : ∀ {cause}, assemble (assemblyOptions o) (succeeded (outcomes.map (·.2))) =
      .error cause → ∃ known, cause = .oversized known ∧ Stylesheet.maxDigits < known.digits :=
    exists_oversized_of_assemble_succeeded comes _
  generalize outcomes.map (·.2) = values at fails ⊢
  -- one case for each end that `conclude` can come to
  by_cases none : succeeded values = []
  · have concluded : conclude o values = .error (.noPage (failed values)) := by
      rw [conclude, if_pos (by simpa using none)]
    rw [concluded]
    exact ⟨⟨fun _ => .inl none, fun _ => ⟨_, rfl, rfl⟩⟩, fun _ same _ => by cases same; rfl,
      fun some => (some none).elim, fun some => (some none).elim⟩
  cases assembled : assemble (assemblyOptions o) (succeeded values) with
  | error cause =>
    have concluded : conclude o values = .error (.assembly cause) := by
      rw [conclude, if_neg (by simpa using none), assembled]
    rw [concluded]
    obtain ⟨known, rfl, large⟩ := fails assembled
    have label : ∀ e : RunError, .error (.assembly (.oversized known)) =
        (.error e : Except RunError RunResult) → e.label ≠ "ExtractionError" := by
      rintro _ ⟨⟩
      simp [RunError.label]
    refine ⟨⟨?_, ?_⟩, fun e same is => (label e same is).elim, ?_, ?_⟩
    · exact fun ⟨e, same, is⟩ => (label e same is).elim
    · rintro (empty | ⟨output, given, -⟩)
      · exact (none empty).elim
      · cases assembled.symm.trans given
    · intro _ output given
      cases assembled.symm.trans given
    · intro _ cause given
      cases assembled.symm.trans given
      exact ⟨rfl, known, rfl, large⟩
  | ok output =>
    by_cases critical : output.critical = ""
    · have concluded : conclude o values = .error (.nothingCritical (failed values)) := by
        rw [conclude, if_neg (by simpa using none), assembled]
        exact if_pos critical
      rw [concluded]
      refine ⟨⟨fun _ => .inr ⟨output, assembled, critical⟩, fun _ => ⟨_, rfl, rfl⟩⟩,
        fun _ same _ => by cases same; rfl, ?_, ?_⟩
      · intro _ other given filled
        cases assembled.symm.trans given
        exact (filled critical).elim
      · intro _ cause given
        cases assembled.symm.trans given
    · rw [conclude_of_assembled none assembled critical]
      refine ⟨⟨nofun, ?_⟩, nofun, ?_, ?_⟩
      · rintro (empty | ⟨other, given, blank⟩)
        · exact (none empty).elim
        · cases assembled.symm.trans given
          exact (critical blank).elim
      · intro _ other given _
        cases assembled.symm.trans given
        rfl
      · intro _ cause given
        cases assembled.symm.trans given

section ForUrls

variable (first : String) (others : List String)

/-- The evaluation of a page does not depend on the other pages of the run. -/
theorem attempt_forUrls : attempt (o.forUrls first others) s sheet = attempt o s sheet :=
  rfl

theorem comes_forUrls_iff :
    Comes (o.forUrls first others) s sheet urls outcomes ↔ Comes o s sheet urls outcomes := by
  rw [Comes, Comes, attempt_forUrls]

theorem css_forUrls {css : Option String} (given : o.css = css) :
    (o.forUrls first others).css = css :=
  given

theorem urls_forUrls : (o.forUrls first others).urls = first :: others :=
  rfl

theorem assemblyOptions_forUrls : assemblyOptions (o.forUrls first others) = assemblyOptions o :=
  rfl

end ForUrls

/-- Whatever outcomes the pages can come to, a run with a given stylesheet has a course in which
they do. -/
theorem exists_course_of_comes {css : String} (given : o.css = some css)
    (text : namesFile css = false) (limit : d.limit = o.browser.concurrentTabs.map (·.1))
    (comes : Comes o ⟨true, true⟩ (sheetOfText css) o.urls outcomes) :
    ∃ t, (under d o).Course t (conclude o (outcomes.map (·.2))) ∧
      t.any Event.launches = true ∧
      ((∀ part ∈ outcomes.map (·.1), ∀ e ∈ part, Event.IsReported e) →
        ∀ e ∈ t, Event.IsReported e) := by
  obtain ⟨work, evaluated, mixed⟩ := exists_course_evaluateAll (places_of_limit limit) comes
  have read : (cssText o ⟨true, true⟩).run.Course [] (.ok css) := by
    rw [cssText_of_text given text]
    exact .done _
  have ended : ∀ e ∈ ([⟨.closeBrowser, .ok ()⟩, ⟨.stop, .ok ()⟩] : List Event),
      Event.IsReported e := by
    simp [Event.IsReported, Event.IsOfBrowser, Event.fault?]
  have course := course_under_of_body (d := d) ended
    (course_body_iff.2 (.inr ⟨[], css, work, _, rfl, read, evaluated, rfl⟩))
  refine ⟨_, course, rfl, fun known => ?_⟩
  have inside : ∀ e ∈ work, Event.IsReported e := by
    intro e mem
    obtain ⟨part, listed, mem⟩ := mixed.mem_iff.1 mem
    exact known part listed e mem
  exact List.forall_mem_append.2
    ⟨isReported_of_mem_launched o, List.forall_mem_append.2 ⟨inside, ended⟩⟩

/-- A run for pages that all succeed gives their texts. -/
theorem exists_course_of_assembled {css : String} (given : o.css = some css)
    (text : namesFile css = false) (limit : d.limit = o.browser.concurrentTabs.map (·.1))
    (comes : Comes o ⟨true, true⟩ (sheetOfText css) o.urls outcomes) {pages : List PageResult}
    (values : outcomes.map (·.2) = pages.map .ok) (some : pages ≠ []) {output : Output}
    (assembled : assemble (assemblyOptions o) pages = .ok output)
    (critical : output.critical ≠ "") :
    ∃ t, (under d o).Course t (.ok ⟨output, []⟩) := by
  obtain ⟨t, course, -⟩ := exists_course_of_comes given text limit comes
  rw [← succeeded_map_ok pages] at some assembled
  rw [values, conclude_of_assembled some assembled critical, failed_map_ok] at course
  exact ⟨t, course⟩

/-! ## The whole run -/

/-- A run has evaluated its pages, each of them by itself. -/
structure Isolates (d : Pool.Discipline BrowserCall) (o : RunOptions) (css : String)
    (outcomes : List PageOutcome) (t : List Event) (outcome : Except RunError RunResult) :
    Prop where
  /-- Each page has come to its outcome, … -/
  comes : Comes o ⟨true, true⟩ (sheetOfText css) o.urls outcomes
  /-- … so that there is one for each, in the order of the pages, … -/
  urls : (outcomes.map (·.2)).map urlOf = o.urls
  /-- … while the events of the pages were interleaved. -/
  evaluated : ∃ work, work <:+: t ∧ Interleaves (outcomes.map (·.1)) work ∧
    (evaluateAll d o ⟨true, true⟩ (sheetOfText css)).Course work (outcomes.map (·.2))
  /-- At no stage more pages than allowed have a place. -/
  places : ∀ k, d.limit = some k → ∀ early stage,
    Pool.Reaches d (.start (o.urls.map (attempt o ⟨true, true⟩ (sheetOfText css)))) early stage →
      stage.inside ≤ k
  /-- What is made of the outcomes. -/
  settles : Settles o (outcomes.map (·.2)) outcome
  /-- Without the pages that failed the texts are the same. -/
  alone : ∀ first others, succeeded (outcomes.map (·.2)) = first :: others → ∀ output,
    assemble (assemblyOptions o) (first :: others) = .ok output → output.critical ≠ "" →
      ∀ d' : Pool.Discipline BrowserCall, d'.limit = d.limit →
        ∃ t', (under d' (o.forUrls first.url (others.map (·.url)))).Course t' (.ok ⟨output, []⟩)

/-- **Pages do not harm each other**, whatever comes of each of them and in whatever order they
take turns. -/
theorem under_isolates_pages {css : String} (given : o.css = some css)
    (text : namesFile css = false) (limit : d.limit = o.browser.concurrentTabs.map (·.1))
    {outcome : Except RunError RunResult} (course : (under d o).Course t outcome)
    (honest : ∀ e ∈ t, Event.IsReported e) (launched : t.any Event.launches = true) :
    ∃ outcomes, Isolates d o css outcomes t outcome := by
  cases (course_under_iff honest).1 course with
  | notStarted fault => cases launched
  | notLaunched fault stopped => cases launched
  | @served inner _ closed stopped work =>
    -- a stylesheet that is given as a text is there without a call
    obtain ⟨e, own, -⟩ | ⟨first, own, rest, values, rfl, read, evaluated, rfl⟩ :=
      course_body_iff.1 work
    all_goals rw [cssText_of_text given text] at *
    · cases (Action.course_pure_iff.1 own).2
    obtain ⟨rfl, same⟩ := Action.course_pure_iff.1 read
    cases same
    obtain ⟨outcomes, comes, mixed, rfl⟩ := exists_outcomes (places_of_limit limit) evaluated
    refine ⟨outcomes, comes, map_urlOf comes, ⟨rest, ⟨[_, _], [_, _], rfl⟩, mixed, evaluated⟩, ?_,
      settles_conclude comes, ?_⟩
    · intro k bound early stage walk
      exact walk.inside_le bound (by rw [Pool.inside_start]; exact Nat.zero_le k)
    · intro first others kept output assembled critical d' same
      obtain ⟨alone, comesAlone, values⟩ := exists_succeeding comes
      rw [kept] at comesAlone values
      rw [← comes_forUrls_iff first.url (others.map (·.url)), List.map_cons,
        ← urls_forUrls (o := o)] at comesAlone
      rw [← assemblyOptions_forUrls first.url (others.map (·.url))] at assembled
      have places : d'.limit =
          (o.forUrls first.url (others.map (·.url))).browser.concurrentTabs.map (·.1) :=
        same.trans limit
      exact exists_course_of_assembled (css_forUrls _ _ given) text places comesAlone values
        (List.cons_ne_nil _ _) assembled critical

/-- The options of a run for two pages, with a stylesheet of one rule. -/
def twoPages : RunOptions :=
  { RunOptions.ofUrls "https://one/" ["https://two/"] with css := some "a\x7bb:c\x7d" }

/-- The rule applies to the first page, and the second page cannot be reached. -/
def oneReached : List PageOutcome :=
  let look := ContextLook.ofOptions twoPages
  [([⟨.newContext look, .ok 0⟩, ⟨.newPage 0, .ok 0⟩, ⟨.openDevtools 0, .ok ()⟩,
      ⟨.disableCache 0, .ok ()⟩, ⟨.intercept 0 twoPages.blockRequests, .ok ()⟩,
      ⟨.goto 0 "https://one/" 30000, .ok ()⟩, ⟨.stopLoading 0 2000, .ok ()⟩,
      ⟨.awaitIdle 0 2000, .ok ()⟩, ⟨.delay 0 250, .ok ()⟩,
      ⟨.probe 0 ["a"], .ok (.arr [.bool true])⟩, ⟨.closeContext 0, .ok ()⟩],
    .ok ⟨"https://one/", [.style ⟨["a"], [⟨"b", "c"⟩], some ⟨1, 1⟩⟩], []⟩),
    ([⟨.newContext look, .ok 1⟩, ⟨.newPage 1, .ok 1⟩, ⟨.openDevtools 1, .ok ()⟩,
      ⟨.disableCache 1, .ok ()⟩, ⟨.intercept 1 twoPages.blockRequests, .ok ()⟩,
      ⟨.goto 1 "https://two/" 30000, .error (.error "unreachable")⟩, ⟨.closeContext 1, .ok ()⟩],
    .error ⟨"https://two/", .navigation "https://two/" (.error "unreachable")⟩)]

theorem comes_oneReached :
    Comes twoPages ⟨true, true⟩ (sheetOfText "a\x7bb:c\x7d") twoPages.urls oneReached := by
  have read : Stylesheet.parse "a\x7bb:c\x7d" =
      .ok [.style ⟨["a"], [⟨"b", "c"⟩], some ⟨1, 1⟩⟩] := by decide +kernel
  rw [sheetOfText, read]
  refine .cons ?_ (.cons ?_ .nil)
  all_goals
    repeat refine .ask ?_
    exact .done _

theorem under_isolates_pages_oneReached :
    let output : Output := ⟨"a\x7bb:c\x7d", ""⟩
    let failure : UrlFailure :=
      ⟨"https://two/", .navigation "https://two/" (.error "unreachable")⟩
    ∃ t outcomes, (run twoPages).Course t (.ok ⟨output, [failure]⟩) ∧
      Isolates (discipline twoPages) twoPages "a\x7bb:c\x7d" outcomes t
        (.ok ⟨output, [failure]⟩) := by
  intro output failure
  have text : namesFile "a\x7bb:c\x7d" = false := by decide +kernel
  have concluded : conclude twoPages (oneReached.map (·.2)) = .ok ⟨output, [failure]⟩ := by
    decide +kernel
  have known : ∀ part ∈ oneReached.map (·.1), ∀ e ∈ part, Event.IsReported e := by
    simp [oneReached, Event.IsReported, Event.IsOfBrowser, Event.fault?, BrowserCall.fault?,
      Fault.isOfBrowser]
  obtain ⟨t, course, launched, honest⟩ :=
    exists_course_of_comes (d := discipline twoPages) rfl text rfl comes_oneReached
  rw [concluded] at course
  obtain ⟨outcomes, isolates⟩ := under_isolates_pages rfl text rfl course (honest known) launched
  exact ⟨t, outcomes, course, isolates⟩

end Run

end CriticalCss
