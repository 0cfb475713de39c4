import CriticalCss.Proofs.Browser.Failure
import CriticalCss.Proofs.Options.Standard
import CriticalCss.Proofs.Run.Outcome

/-!
# How runs fail

As far as the browser reports what goes wrong, a run fails because it cannot be set up or because
nothing can be extracted, and the failures of its pages are of the three kinds that errors of
pages have. The exceptions are listed: `PageError.Escapes` for pages, `RunError.Escapes` for the
run, with the cause of each (`Run.named_or_escapes`). They do happen: a run without a stylesheet
whose first address has only one of two square brackets passes on the error of the address
(`Run.address_error_is_passed`).
-/

namespace CriticalCss

open Dialogue

/-! ## The exceptions -/

/-- A run fails before any page is evaluated, for a reason that it has no words for. -/
inductive RunError.EscapesSetup (o : RunOptions) (t : List Event) : RunError → Prop
  | address {cause : AddressFault} : o.css = none → Url.isLocal o.firstUrl = .error cause →
    EscapesSetup o t (.passed (.address cause))
  | undecodable {path : FilePath} {fault : FileFault} {name : String} :
    (⟨.fileText path, .error fault⟩ : Event) ∈ t → fault.foreignName? = some name →
    EscapesSetup o t (.passed (.passed (.other name (fault.message path))))

theorem RunError.EscapesSetup.mono {o : RunOptions} {t t' : List Event} {e : RunError}
    (escapes : e.EscapesSetup o t) (grows : t ⊆ t') : e.EscapesSetup o t' := by
  cases escapes with
  | address given refused => exact .address given refused
  | undecodable mem foreign => exact .undecodable (grows mem) foreign

/-- A run fails for a reason that it has no words for: in setting up, or because a text of the
pages that it has evaluated cannot be finished. -/
inductive RunError.Escapes (d : Pool.Discipline BrowserCall) (o : RunOptions) (t : List Event) :
    RunError → Prop
  | setup {e : RunError} : e.EscapesSetup o t → Escapes d o t e
  | oversized {first rest : List Event} {css : String}
    {values : List (Except UrlFailure PageResult)} {cause : Stylesheet.Oversized} :
    first ++ rest <:+: t → (Run.cssText o ⟨true, true⟩).run.Course first (.ok css) →
    (Run.evaluateAll d o ⟨true, true⟩ (Run.sheetOfText css)).Course rest values →
    assemble (Run.assemblyOptions o) (Run.succeeded values) = .error (.oversized cause) →
    Escapes d o t (.assembly (.oversized cause))

/-- The names of the errors with which a run is meant to fail. -/
def RunError.names : List String :=
  ["SetupError", "ExtractionError"]

/-- The names of the errors with which a page is meant to fail. -/
def PageError.names : List String :=
  ["PageAcquisitionError", "NavigationError", "EvaluationError"]

theorem PageError.label_mem_names {e : PageError} (kind : e.kind?.isSome = true) :
    e.label ∈ names := by
  cases e <;> simp_all [label, kind?, names]

/-- The pages that failed, as far as a run reports them. -/
def Run.recorded : Except RunError RunResult → List UrlFailure
  | .ok result => result.failures
  | .error e => e.failures?.getD []

namespace Run

variable {d : Pool.Discipline BrowserCall} {o : RunOptions} {sheet : Stylesheet} {t : List Event}

/-! ## Pages -/

open PageError in
theorem failsBy_measure (o : RunOptions) (sheet : Stylesheet) (url : String) (page : Page) :
    (measure o sheet url page).FailsBy (FailsMeasuring url) := by
  have grows : ∀ {t t' : List Event} {e : PageError}, t ⊆ t' → FailsMeasuring url t e →
      FailsMeasuring url t' e := fun grows fails => fails.mono grows
  have shown : (page.navigate o url).FailsBy (FailsMeasuring url) :=
    (page.failsBy_navigate o url).imp fun _ _ fails => fails.imp_right .showing
  have extraction : (extract (wishes o) page.probe sheet).FailsBy (FailsMeasuring url) := by
    unfold extract
    dsimp only
    split
    · exact (Action.failsBy_pure _).bind (fun _ => Action.failsBy_pure _) grows
    · exact (page.failsBy_probe url _).bind (fun _ => Action.failsBy_pure _) grows
  refine shown.bind (fun _ => (page.failsBy_settle o url).bind (fun _ => ?_) grows) grows
  dsimp only
  split
  · exact (page.failsBy_screenshot o url).bind (fun _ => extraction) grows
  · exact extraction

theorem failsBy_evaluate (o : RunOptions) (sheet : Stylesheet) (url : String) :
    (evaluate o ⟨true, true⟩ sheet url).FailsBy (PageError.FailsMeasuring url) := by
  refine Action.FailsBy.bind (Page.failsBy_openPage o fun _ _ => .inl rfl) (fun page => ?_)
    fun grows fails => fails.mono grows
  refine Action.FailsBy.bind ?_ (fun _ => Action.failsBy_pure _) fun grows fails => fails.mono grows
  exact (failsBy_measure o sheet url page).ending page.failsBy_close
    fun grows fails => fails.mono grows

/-- The failures of pages are those of their evaluations. -/
theorem failsMeasuring_of_mem_failed {outcomes : List PageOutcome}
    (comes : Comes o ⟨true, true⟩ sheet o.urls outcomes)
    (honest : ∀ outcome ∈ outcomes, ∀ e ∈ outcome.1, Event.IsOfBrowser e)
    (within : ∀ outcome ∈ outcomes, outcome.1 ⊆ t) {failure : UrlFailure}
    (mem : failure ∈ failed (outcomes.map (·.2))) :
    failure.url ∈ o.urls ∧ failure.cause.FailsMeasuring failure.url t := by
  obtain ⟨outcome, listed, is⟩ := List.mem_map.1 (mem_failed_iff.1 mem)
  obtain ⟨url, inside, attempted⟩ := comes.exists_url listed
  obtain ⟨own, evaluated, same⟩ := course_attempt_iff.1 attempted
  rw [is] at same
  cases own with
  | ok page => cases same
  | error cause =>
    cases same
    exact ⟨inside, (failsBy_evaluate o sheet url _ _ (honest outcome listed) evaluated).mono
      (within outcome listed)⟩

/-! ## The stylesheet -/

/-- Without a stylesheet the run fails before any page does. -/
theorem failsBy_cssText (o : RunOptions) :
    (cssText o ⟨true, true⟩).FailsBy fun t e =>
      (e.label ∈ RunError.names ∨ e.EscapesSetup o t) ∧ e.failures? = none := by
  intro t e honest course
  cases given : o.css with
  | none =>
    rw [cssText, given] at course
    obtain ⟨own | _, collected, same⟩ := Action.course_rephrase_iff.1 course
    · cases same
      unfold stylesheetsError
      rcases Page.failsBy_collectStylesheets o o.firstUrl t own honest collected with kind | escapes
      · rw [if_pos kind]
        exact ⟨.inl (by simp [RunError.label, RunError.names]), rfl⟩
      · cases escapes with
        | address refused => exact ⟨.inr (.address given refused), rfl⟩
        | undecodable mem foreign => exact ⟨.inr (.undecodable mem foreign), rfl⟩
    · cases same
  | some css =>
    cases file : namesFile css with
    | true =>
      obtain ⟨answer, rfl, same⟩ := (course_cssText_iff_of_file given file).1 course
      cases answer with
      | error fault =>
        cases same
        unfold fileError
        split
        · exact ⟨.inl (by simp [RunError.label, RunError.names]), rfl⟩
        · exact ⟨.inr (.undecodable List.mem_cons_self ‹_›), rfl⟩
      | ok text =>
        rw [fileOutcome] at same
        split at same
        · cases same
          exact ⟨.inl (by simp [RunError.label, RunError.names]), rfl⟩
        · cases same
    | false =>
      rw [cssText_of_text given file] at course
      cases (Action.course_pure_iff.1 course).2

/-! ## The whole run -/

/-- What is made of the pages fails because there are no pages or nothing on them is critical, or
because a text cannot be finished. -/
theorem label_or_oversized_of_conclude {css : String} {outcomes : List PageOutcome}
    (comes : Comes o ⟨true, true⟩ (sheetOfText css) o.urls outcomes) {e : RunError}
    (failed : conclude o (outcomes.map (·.2)) = .error e) :
    e.label ∈ RunError.names ∨ ∃ cause, e = .assembly (.oversized cause) ∧
      assemble (assemblyOptions o) (succeeded (outcomes.map (·.2))) =
        .error (.oversized cause) := by
  have extraction : ∀ {failures}, (RunError.noPage failures).label ∈ RunError.names ∧
      (RunError.nothingCritical failures).label ∈ RunError.names := by
    simp [RunError.label, RunError.names]
  unfold conclude at failed
  split at failed
  · exact .inl (Except.error.inj failed ▸ extraction.1)
  · split at failed
    · rename_i cause assembled
      obtain ⟨known, rfl, -⟩ := exists_oversized_of_assemble_succeeded comes _ assembled
      exact .inr ⟨known, (Except.error.inj failed).symm, assembled⟩
    · split at failed
      · exact .inl (Except.error.inj failed ▸ extraction.2)
      · cases failed

/-- A run reports the pages that failed and no others. -/
theorem recorded_conclude_subset (values : List (Except UrlFailure PageResult)) :
    recorded (conclude o values) ⊆ failed values := by
  unfold conclude
  split
  · exact List.Subset.refl _
  · split
    · exact List.nil_subset _
    · split <;> exact List.Subset.refl _

/-- **A run fails by the names that are meant for it, or for one of the listed reasons**, and so
do the pages that it reports. -/
theorem named_or_escapes {outcome : Except RunError RunResult}
    (limit : d.limit = o.browser.concurrentTabs.map (·.1))
    (course : (under d o).Course t outcome) (honest : ∀ e ∈ t, Event.IsOfBrowser e) :
    (∀ e, outcome = .error e → e.label ∈ RunError.names ∨ e.Escapes d o t) ∧
      ∀ failure ∈ recorded outcome, failure.url ∈ o.urls ∧
        (failure.cause.label ∈ PageError.names ∨ failure.cause.Escapes failure.url t) := by
  have setup : ∀ {fault}, (RunError.session (.notLaunched fault)).label ∈ RunError.names := by
    simp [RunError.label, RunError.names]
  cases (course_under_iff fun e mem _ => honest e mem).1 course with
  | notStarted fault => exact ⟨fun _ same => .inl (Except.error.inj same ▸ setup), nofun⟩
  | notLaunched fault stopped => exact ⟨fun _ same => .inl (Except.error.inj same ▸ setup), nofun⟩
  | @served inner _ closed stopped work =>
    obtain ⟨-, behind⟩ := List.forall_mem_cons.1 honest
    obtain ⟨-, behind⟩ := List.forall_mem_cons.1 behind
    have known := (List.forall_mem_append.1 behind).1
    have part : inner <:+: ⟨.start, .ok ()⟩ ::
        ⟨.launch o.browser.headless o.browser.executablePath, .ok ()⟩ ::
          (inner ++ [⟨.closeBrowser, closed⟩, ⟨.stop, stopped⟩]) :=
      ⟨[_, _], [_, _], rfl⟩
    have within := part.subset
    obtain ⟨e, own, rfl⟩ | ⟨first, css, rest, values, rfl, own, later, rfl⟩ :=
      course_body_iff.1 work
    · obtain ⟨named, silent⟩ := failsBy_cssText o inner e known own
      refine ⟨fun e' same => ?_, fun failure mem => ?_⟩
      · cases same
        exact named.imp_right fun escapes => .setup (escapes.mono within)
      · change failure ∈ e.failures?.getD [] at mem
        rw [silent] at mem
        cases mem
    · obtain ⟨outcomes, comes, mixed, rfl⟩ := exists_outcomes (places_of_limit limit) later
      refine ⟨fun e failed => ?_, fun failure mem => ?_⟩
      · obtain named | ⟨cause, rfl, assembled⟩ := label_or_oversized_of_conclude comes failed
        · exact .inl named
        · exact .inr (.oversized part own later assembled)
      have inside : ∀ outcome ∈ outcomes, outcome.1 ⊆ rest := fun outcome listed e mem =>
        mixed.mem_iff.2 ⟨_, List.mem_map_of_mem listed, mem⟩
      obtain ⟨listed, fails⟩ := failsMeasuring_of_mem_failed comes
        (fun outcome listed e mem => known e (List.mem_append_right _ (inside outcome listed mem)))
        (fun outcome listed e mem => within (List.mem_append_right _ (inside outcome listed mem)))
        (recorded_conclude_subset _ mem)
      exact ⟨listed, fails.imp_left PageError.label_mem_names⟩

/-- A run for a page of which the address has no closing bracket, with a browser that does
everything it is asked. -/
def halfBracketed : List Event :=
  let o := RunOptions.ofUrls "http://[" []
  [⟨.start, .ok ()⟩, ⟨.launch true none, .ok ()⟩, ⟨.newContext (.ofOptions o), .ok 0⟩,
    ⟨.newPage 0, .ok 0⟩, ⟨.openDevtools 0, .ok ()⟩, ⟨.disableCache 0, .ok ()⟩,
    ⟨.intercept 0 o.blockRequests, .ok ()⟩, ⟨.closeContext 0, .ok ()⟩, ⟨.closeBrowser, .ok ()⟩,
    ⟨.stop, .ok ()⟩]

theorem course_halfBracketed :
    (run (.ofUrls "http://[" [])).Course halfBracketed
      (.error (.passed (.address .unbalanced))) := by
  unfold halfBracketed
  repeat refine .ask ?_
  exact .done _

theorem honest_halfBracketed : ∀ e ∈ halfBracketed, Event.IsOfBrowser e := by
  simp [halfBracketed, Event.IsOfBrowser, Event.fault?]

theorem named_or_escapes_halfBracketed :
    (run (.ofUrls "http://[" [])).Course halfBracketed (.error (.passed (.address .unbalanced))) ∧
      ((RunError.passed (.address .unbalanced)).label ∈ RunError.names ∨
        RunError.Escapes (discipline (.ofUrls "http://[" [])) (.ofUrls "http://[" []) halfBracketed
          (.passed (.address .unbalanced))) :=
  ⟨course_halfBracketed, (named_or_escapes rfl course_halfBracketed honest_halfBracketed).1 _ rfl⟩

/-- **An address can make a run fail by another name**: no call fails, and still the error is none
of those that are meant for runs. -/
theorem address_error_is_passed :
    ∃ o t e, RunOptions.build (.obj [("urls", .strings ["http://["])]) = .ok o ∧
      (run o).Course t (.error e) ∧ (∀ event ∈ t, Event.IsOfBrowser event) ∧
      e.label = "ValueError" ∧ e.message = "Invalid IPv6 URL" ∧ e.label ∉ RunError.names :=
  ⟨_, halfBracketed, _, RunOptions.build_urls _ _, course_halfBracketed, honest_halfBracketed, rfl,
    rfl, by decide⟩

end Run

end CriticalCss
