import CriticalCss.Proofs.Assembly.Finished
import CriticalCss.Proofs.Run.Course

/-!
# Outcomes of pages

Each page of a run comes to an outcome of its own (`Run.exists_outcomes`), and where the
evaluation succeeds, the page has the two parts that some selector map makes of the stylesheet
(`Run.exists_onPages`). So putting the pages of a run together fails for nothing but too long an
integer in their texts (`Run.exists_oversized_of_assemble_succeeded`).
-/

namespace CriticalCss

open Dialogue

namespace Run

variable {d : Pool.Discipline BrowserCall} {o : RunOptions} {s : Session} {sheet : Stylesheet}
  {t : List Event}

/-- A page, the events of its evaluation, and what came of it. -/
abbrev PageOutcome : Type :=
  Pool.Outcome BrowserCall BrowserCall.Answer (Except UrlFailure PageResult)

/-- Each page comes to its outcome. -/
abbrev Comes (o : RunOptions) (s : Session) (sheet : Stylesheet) (urls : List String)
    (outcomes : List PageOutcome) : Prop :=
  List.Forall₂ (fun url outcome => (attempt o s sheet url).Course outcome.1 outcome.2) urls outcomes

/-- The options of a run leave places for its pages. -/
theorem places_of_limit (limit : d.limit = o.browser.concurrentTabs.map (·.1)) :
    d.limit ≠ some 0 := by
  rw [limit]
  intro zero
  obtain ⟨n, -, none⟩ := Option.map_eq_some_iff.1 zero
  exact Nat.pos_iff_ne_zero.1 n.2 none

theorem Comes.exists_url {urls : List String} {outcomes : List PageOutcome}
    (comes : Comes o s sheet urls outcomes) {outcome : PageOutcome} (mem : outcome ∈ outcomes) :
    ∃ url ∈ urls, (attempt o s sheet url).Course outcome.1 outcome.2 := by
  obtain ⟨_, inside, course⟩ := Pool.exists_task_of_mem (List.forall₂_map_left_iff.2 comes) mem
  obtain ⟨url, listed, rfl⟩ := List.mem_map.1 inside
  exact ⟨url, listed, course⟩

/-- The pages of a run come to outcomes each, in the order of the pages, while their events
interleave. -/
theorem exists_outcomes (places : d.limit ≠ some 0)
    {values : List (Except UrlFailure PageResult)}
    (course : (evaluateAll d o s sheet).Course t values) :
    ∃ outcomes, Comes o s sheet o.urls outcomes ∧ Interleaves (outcomes.map (·.1)) t ∧
      values = outcomes.map (·.2) := by
  obtain ⟨outcomes, comes, mixed, same⟩ := Pool.exists_outcomes_of_course_gather places course
  exact ⟨outcomes, List.forall₂_map_left_iff.1 comes, mixed, same⟩

/-- Whatever outcomes pages can come to, a run has a course in which they do. -/
theorem exists_course_evaluateAll (places : d.limit ≠ some 0) {outcomes : List PageOutcome}
    (comes : Comes o s sheet o.urls outcomes) :
    ∃ t, (evaluateAll d o s sheet).Course t (outcomes.map (·.2)) ∧
      Interleaves (outcomes.map (·.1)) t :=
  Pool.exists_course_gather places (List.forall₂_map_left_iff.2 comes)

/-! ## Pages that were evaluated, and pages that failed -/

theorem mem_failed_iff {values : List (Except UrlFailure PageResult)} {failure : UrlFailure} :
    failure ∈ failed values ↔ .error failure ∈ values := by
  rw [failed, List.mem_filterMap]
  constructor
  · rintro ⟨_ | _, mem, same⟩ <;> cases same
    exact mem
  · exact fun mem => ⟨_, mem, rfl⟩

/-- A page that was evaluated has the parts that a selector map makes of the stylesheet. -/
theorem exists_ofMap_of_course_evaluate {url : String} {page : PageResult}
    (course : (evaluate o s sheet url).run.Course t (.ok page)) :
    ∃ map, page = PageResult.ofMap o.dropKeyframes sheet (url, map) := by
  obtain ⟨_, -, no⟩ | ⟨_, _, _, -, -, later⟩ := Action.course_bind_iff.1 course
  · cases no
  obtain ⟨_, -, no⟩ | ⟨_, map, _, -, -, ended⟩ := Action.course_bind_iff.1 later
  · cases no
  obtain ⟨-, same⟩ := Action.course_pure_iff.1 ended
  exact ⟨map, Except.ok.inj same⟩

theorem exists_onPages {urls : List String} {outcomes : List PageOutcome}
    (comes : Comes o s sheet urls outcomes) :
    ∃ pages, succeeded (outcomes.map (·.2)) = sheet.onPages o.dropKeyframes pages := by
  induction comes with
  | nil => exact ⟨[], rfl⟩
  | @cons url outcome urls outcomes own _ ih =>
    obtain ⟨pages, same⟩ := ih
    obtain ⟨result, evaluated, outcome_eq⟩ := course_attempt_iff.1 own
    cases result with
    | error cause =>
      refine ⟨pages, ?_⟩
      rw [List.map_cons, outcome_eq]
      exact same
    | ok page =>
      obtain ⟨map, rfl⟩ := exists_ofMap_of_course_evaluate evaluated
      refine ⟨(url, map) :: pages, ?_⟩
      rw [List.map_cons, outcome_eq]
      exact congrArg (_ :: ·) same

theorem isRead_sheetOfText (css : String) : (sheetOfText css).IsRead := by
  unfold sheetOfText
  split
  · exact Stylesheet.isRead_of_parse ‹_›
  · exact nofun

/-- The maps of the pages of a run come about, so only their texts can fail. -/
theorem exists_oversized_of_assemble_succeeded {css : String} {outcomes : List PageOutcome}
    (comes : Comes o s (sheetOfText css) o.urls outcomes) (options : AssemblyOptions)
    {cause : AssemblyError}
    (failed : assemble options (succeeded (outcomes.map (·.2))) = .error cause) :
    ∃ known, cause = .oversized known ∧ Stylesheet.maxDigits < known.digits := by
  obtain ⟨pages, same⟩ := exists_onPages comes
  rw [same] at failed
  exact Assembly.exists_oversized_of_assemble
    (Assembly.criticalMap_eq (isRead_sheetOfText css) o.dropKeyframes pages)
    (Assembly.restMap_eq (isRead_sheetOfText css) o.dropKeyframes pages) failed

end Run

end CriticalCss
