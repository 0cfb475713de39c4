import CriticalCss.Proofs.Browser.Release

/-!
# Why a page cannot be evaluated

As far as the browser reports what goes wrong, the failure of a page is of one of the three kinds
that the errors of pages have, with a few exceptions, each of which has its own cause: an address
that cannot be taken apart, a file that is no text or that no path can name, a delay that the
browser breaks off, and a measurement that does not give a list (`PageError.Escapes`). The first
two also concern pages of which only the stylesheets are read (`PageError.EscapesShowing`). An
address that cannot be taken apart has a square bracket or a character that normalization takes
apart (`Url.exists_mem_of_isLocal_eq_error`).
-/

namespace CriticalCss

open Dialogue

/-! ## Failures of actions -/

namespace Action

variable {ε ε' α β : Type} {P : List Event → ε → Prop} {x : Action ε α}

/-- If the browser reports what goes wrong, the action fails in this way. -/
def FailsBy (P : List Event → ε → Prop) (x : Action ε α) : Prop :=
  ∀ t e, (∀ event ∈ t, Event.IsOfBrowser event) → x.run.Course t (.error e) → P t e

theorem failsBy_pure (a : α) : (pure a : Action ε α).FailsBy P := by
  intro t e _ course
  cases (course_pure_iff.1 course).2

theorem failsBy_throw {e : ε} (h : P [] e) : (throw e : Action ε α).FailsBy P := by
  intro t e' _ course
  obtain ⟨rfl, same⟩ := course_throw_iff.1 course
  cases same
  exact h

theorem FailsBy.imp {P' : List Event → ε → Prop} (fails : x.FailsBy P)
    (weaker : ∀ t e, P t e → P' t e) : x.FailsBy P' :=
  fun t e honest course => weaker t e (fails t e honest course)

theorem FailsBy.bind {f : α → Action ε β} (fails : x.FailsBy P) (later : ∀ a, (f a).FailsBy P)
    (grows : ∀ {t t' e}, t ⊆ t' → P t e → P t' e) : (x >>= f).FailsBy P := by
  intro t e honest course
  obtain ⟨e, own, same⟩ | ⟨first, a, rest, rfl, -, rest'⟩ := course_bind_iff.1 course
  · cases same
    exact fails t e honest own
  · exact grows (List.subset_append_right first rest)
      (later a rest e (List.forall_mem_append.1 honest).2 rest')

/-- A cleanup that does not fail leaves the failures of the body. -/
theorem FailsBy.ending {cleanup : Action ε Unit} (fails : x.FailsBy P)
    (calm : cleanup.FailsBy fun _ _ => False)
    (grows : ∀ {t t' e}, t ⊆ t' → P t e → P t' e) : (Action.ending cleanup x).FailsBy P := by
  intro t e honest course
  obtain ⟨first, own, rest, ended, rfl, course, cleaning, same⟩ := course_ending_iff.1 course
  obtain ⟨before, after⟩ := List.forall_mem_append.1 honest
  cases ended with
  | error e' => exact (calm rest e' after cleaning).elim
  | ok _ => exact grows (List.subset_append_left first rest) (fails first e before (same ▸ course))

/-- A step that has words for what the browser reports fails in these words. -/
theorem Reports.failsBy_rephrase {P : List Event → PageError → Prop} {x : Action Fault α}
    (reports : x.Reports) {cause : Fault → PageError} (words : ∀ t fault, P t (cause fault)) :
    (x.rephrase (.ofFault cause)).FailsBy P := by
  intro t e honest course
  obtain ⟨own | _, made, same⟩ := course_rephrase_iff.1 course
  · obtain ⟨event, mem, is⟩ := reports t own made
    cases same
    rw [PageError.ofFault, if_pos (honest event mem own is)]
    exact words t own
  · cases same

theorem Reports.quietly {x : Action Fault Unit} (reports : x.Reports) : x.quietly.Reports := by
  intro t fault course
  obtain ⟨_ | _, own, same⟩ := course_quietly_iff.1 course
  · rw [quiet] at same
    split at same
    · cases same
    · cases same
      exact reports t fault own
  · cases same

end Action

/-! ## Addresses that are refused -/

namespace Url

theorem cleaned_subset (cs : List Char) : cleaned cs ⊆ cs :=
  List.Subset.trans (List.filter_subset_self _) (List.dropWhile_subset _)

theorem scheme_subset (cs : List Char) : (scheme cs).2 ⊆ cs := by
  unfold scheme
  dsimp only
  split
  · rename_i shape
    split
    · intro c mem
      exact List.mem_of_mem_drop (shape ▸ List.mem_cons_of_mem _ mem)
    · exact List.Subset.refl _
  · exact List.Subset.refl _

theorem authority_subset (cs : List Char) : authority cs ⊆ cs := by
  unfold authority
  split
  · intro c mem
    exact List.mem_cons_of_mem _ (List.mem_cons_of_mem _ (List.takeWhile_subset _ mem))
  · exact List.nil_subset _

/-- An authority without square brackets that normalization leaves together is not refused. -/
theorem checkAuthority_eq_ok {authority : List Char}
    (plain : ∀ c ∈ authority, c ≠ '[' ∧ c ≠ ']' ∧ isUnstable c = false) :
    checkAuthority authority = .ok () := by
  have opening : authority.contains '[' = false := by
    rw [List.contains_eq_mem, decide_eq_false_iff_not]
    exact fun mem => (plain _ mem).1 rfl
  have closing : authority.contains ']' = false := by
    rw [List.contains_eq_mem, decide_eq_false_iff_not]
    exact fun mem => (plain _ mem).2.1 rfl
  have stable : authority.any isUnstable = false := by
    rw [List.any_eq_false]
    exact fun c mem => Bool.eq_false_iff.1 (plain c mem).2.2
  rw [checkAuthority, opening, closing, stable]
  rfl

theorem isLocal_eq_error_iff {url : String} {cause : AddressFault} :
    isLocal url = .error cause ↔
      checkAuthority (authority (scheme (cleaned url.toList)).2) = .error cause := by
  rw [isLocal]
  dsimp only
  cases checkAuthority (authority (scheme (cleaned url.toList)).2) with
  | error => simp [bind, Except.bind]
  | ok => simp [bind, Except.bind, pure, Except.pure]

/-- An address is refused only if it has a square bracket or a character that normalization takes
apart. -/
theorem exists_mem_of_isLocal_eq_error {url : String} {cause : AddressFault}
    (refused : isLocal url = .error cause) :
    ∃ c ∈ url.toList, c = '[' ∨ c = ']' ∨ isUnstable c = true := by
  by_contra none
  rw [isLocal_eq_error_iff, checkAuthority_eq_ok fun c mem => ?_] at refused
  · cases refused
  · have inside : c ∈ url.toList := cleaned_subset _ (scheme_subset _ (authority_subset _ mem))
    have plain : ¬(c = '[' ∨ c = ']' ∨ isUnstable c = true) := fun is => none ⟨c, inside, is⟩
    simpa only [not_or, Bool.not_eq_true] using plain

example : isLocal "http://[::1]:80/" = .ok false := by decide +kernel

example : isLocal "http://[zzz]/" = .error (.noAddress "zzz") := by decide +kernel

end Url

/-! ## The exceptions -/

namespace PageError

/-- A page that is only shown fails for a reason that no step has words for. -/
inductive EscapesShowing (url : String) (t : List Event) : PageError → Prop
  | address {cause : AddressFault} : Url.isLocal url = .error cause →
    EscapesShowing url t (.address cause)
  | undecodable {path : FilePath} {fault : FileFault} {name : String} :
    (⟨.fileText path, .error fault⟩ : Event) ∈ t → fault.foreignName? = some name →
    EscapesShowing url t (.passed (.other name (fault.message path)))

/-- A page that is measured fails for a reason that no step has words for. -/
inductive Escapes (url : String) (t : List Event) : PageError → Prop
  | showing {e : PageError} : EscapesShowing url t e → Escapes url t e
  | delay {page time : Nat} {fault : Fault} : (⟨.delay page time, .error fault⟩ : Event) ∈ t →
    Escapes url t (.passed fault)
  | answers {page : Nat} {selectors : List String} {answers : Json} {e : PageError} :
    (⟨.probe page selectors, .ok answers⟩ : Event) ∈ t → Page.verdicts answers = .error e →
    Escapes url t e

variable {url : String} {t t' : List Event} {e : PageError}

theorem EscapesShowing.mono (escapes : EscapesShowing url t e) (grows : t ⊆ t') :
    EscapesShowing url t' e := by
  cases escapes with
  | address refused => exact .address refused
  | undecodable mem foreign => exact .undecodable (grows mem) foreign

theorem Escapes.mono (escapes : Escapes url t e) (grows : t ⊆ t') : Escapes url t' e := by
  cases escapes with
  | showing escapes => exact .showing (escapes.mono grows)
  | delay mem => exact .delay (grows mem)
  | answers mem verdicts => exact .answers (grows mem) verdicts

/-- The failure of a page that is only shown. -/
def FailsShowing (url : String) (t : List Event) (e : PageError) : Prop :=
  e.kind?.isSome = true ∨ EscapesShowing url t e

/-- The failure of a page that is measured. -/
def FailsMeasuring (url : String) (t : List Event) (e : PageError) : Prop :=
  e.kind?.isSome = true ∨ Escapes url t e

theorem FailsShowing.mono (fails : FailsShowing url t e) (grows : t ⊆ t') : FailsShowing url t' e :=
  fails.imp_right fun escapes => escapes.mono grows

theorem FailsMeasuring.mono (fails : FailsMeasuring url t e) (grows : t ⊆ t') :
    FailsMeasuring url t' e :=
  fails.imp_right fun escapes => escapes.mono grows

end PageError

/-! ## The steps of a page -/

namespace Page

open PageError

variable (o : RunOptions) (page : Page) (url : String)

theorem reports_openOnce : (openOnce o).Reports := by
  refine Action.Reports.bind (fun _ _ course => Action.exists_fault_of_course_make course rfl)
    fun context => ?_
  intro t fault course
  obtain ⟨_, -, no⟩ | ⟨first, cause, rest, rfl, own, later⟩ := Action.course_tryCatch_iff.1 course
  · cases no
  obtain ⟨event, mem, is⟩ := reports_prepare o context first cause own
  -- what is passed on is what went wrong first, or what goes wrong when the context is closed
  have passed : fault = cause ∨ ∃ e ∈ rest, Event.fault? e = some fault := by
    split at later
    · obtain ⟨_, closing, same⟩ | ⟨_, _, _, -, -, thrown⟩ := Action.course_bind_iff.1 later
      · cases same
        have reports : (BrowserCall.closeContext context).make.quietly.Reports :=
          Action.Reports.quietly fun _ _ course => Action.exists_fault_of_course_make course rfl
        exact .inr (reports rest fault closing)
      · exact .inl (Except.error.inj (Action.course_throw_iff.1 thrown).2)
    · exact .inl (Except.error.inj (Action.course_throw_iff.1 later).2)
  rcases passed with rfl | ⟨e, inside, is⟩
  · exact ⟨event, List.mem_append_left rest mem, is⟩
  · exact ⟨e, List.mem_append_right first inside, is⟩

theorem failsBy_openPage {P : List Event → PageError → Prop}
    (words : ∀ t fault, P t (.noPage fault)) : (openPage o).FailsBy P := by
  refine Action.Reports.failsBy_rephrase (fun t fault course => ?_) words
  refine course_retry (P := fun t outcome => ∀ fault, outcome = .error fault →
    ∃ e ∈ t, Event.fault? e = some fault) ?_ ?_ course fault rfl
  · rintro t outcome tried fault rfl
    exact reports_openOnce o t fault tried
  · intro first _ pausing rest outcome _ _ later fault failed
    obtain ⟨e, mem, is⟩ := later fault failed
    exact ⟨e, List.mem_append_right first (List.mem_append_right pausing mem), is⟩

theorem failsBy_close : page.close.FailsBy fun _ _ => False := by
  intro t e honest course
  obtain ⟨answer, rfl, same⟩ := course_close_iff.1 course
  have quiet : Action.quiet answer = .ok () := Action.quiet_eq_ok fun fault failed =>
    honest _ List.mem_cons_self fault (by subst failed; rfl)
  rw [quiet] at same
  cases same

theorem failsBy_navigate : (page.navigate o url).FailsBy (FailsShowing url) := by
  unfold navigate
  split
  · exact Action.failsBy_throw (.inr (.address ‹_›))
  · refine Action.FailsBy.bind ?_ (fun html => ?_) fun grows fails => fails.mono grows
    · intro t e _ course
      obtain ⟨own | _, made, same⟩ := Action.course_rephrase_iff.1 course
      · obtain rfl := Action.course_make_iff.1 made
        cases same
        unfold PageError.ofFileFault
        split
        · exact .inl rfl
        · exact .inr (.undecodable List.mem_cons_self ‹_›)
      · cases same
    · exact Action.Reports.failsBy_rephrase
        (fun _ _ course => Action.exists_fault_of_course_make course rfl) fun _ _ => .inl rfl
  · exact Action.Reports.failsBy_rephrase
      (fun _ _ course => Action.exists_fault_of_course_make course rfl) fun _ _ => .inl rfl

theorem failsBy_comeToRest : (page.comeToRest o).FailsBy (FailsMeasuring url) := by
  have waits : (page.awaitRest o).Reports :=
    Action.Reports.bind (fun _ _ course => Action.exists_fault_of_course_make course rfl)
      fun _ _ _ course => Action.exists_fault_of_course_make course rfl
  refine Action.Reports.failsBy_rephrase (fun t fault course => ?_) fun _ _ => .inl rfl
  obtain ⟨_, -, no⟩ | ⟨first, cause, rest, rfl, own, later⟩ := Action.course_tryCatch_iff.1 course
  · cases no
  · obtain ⟨event, mem, is⟩ := waits first cause own
    -- a timeout counts as rest, and any other fault is passed on
    have passed : fault = cause := by
      cases cause with
      | timeout => cases (Action.course_pure_iff.1 later).2
      | _ => exact Except.error.inj (Action.course_throw_iff.1 later).2
    exact ⟨event, List.mem_append_left rest mem, passed ▸ is⟩

theorem failsBy_settle : (page.settle o).FailsBy (FailsMeasuring url) := by
  refine (page.failsBy_comeToRest o url).bind (fun _ => ?_) fun grows fails => fails.mono grows
  split
  · exact Action.failsBy_pure _
  · intro t e _ course
    obtain ⟨own | _, made, same⟩ := Action.course_rephrase_iff.1 course
    · obtain rfl := Action.course_make_iff.1 made
      cases same
      exact .inr (.delay List.mem_cons_self)
    · cases same

theorem failsBy_screenshot : (page.screenshot o url).FailsBy (FailsMeasuring url) := by
  refine Action.FailsBy.bind ?_ (fun _ => Action.failsBy_pure _) fun grows fails => fails.mono grows
  exact Action.Reports.failsBy_rephrase
    (fun _ _ course => Action.exists_fault_of_course_make course rfl) fun _ _ => .inl rfl

theorem failsBy_probe (selectors : List String) :
    (page.probe selectors).FailsBy (FailsMeasuring url) := by
  intro t e honest course
  have reports : (BrowserCall.probe page.number selectors).make.Reports :=
    fun _ _ course => Action.exists_fault_of_course_make course rfl
  obtain ⟨_, own, same⟩ | ⟨first, answers, rest, rfl, own, later⟩ := Action.course_bind_iff.1 course
  · cases same
    exact reports.failsBy_rephrase (fun _ _ => .inl rfl) t e honest own
  · obtain ⟨_ | _, made, same⟩ := Action.course_rephrase_iff.1 own
    · cases same
    obtain rfl := Action.course_make_iff.1 made
    cases same
    obtain ⟨-, verdicts⟩ := Dialogue.course_pure_iff.1 later
    exact .inr (.answers List.mem_cons_self verdicts.symm)

theorem failsBy_collectStylesheets : (collectStylesheets o url).FailsBy (FailsShowing url) := by
  refine (failsBy_openPage o fun _ _ => .inl rfl).bind (fun page => ?_)
    fun grows fails => fails.mono grows
  refine Action.FailsBy.ending ?_ page.failsBy_close fun grows fails => fails.mono grows
  refine (page.failsBy_navigate o url).bind (fun _ => ?_) fun grows fails => fails.mono grows
  refine Action.FailsBy.bind ?_ (fun _ => Action.failsBy_pure _) fun grows fails => fails.mono grows
  exact Action.Reports.failsBy_rephrase
    (fun _ _ course => Action.exists_fault_of_course_make course rfl) fun _ _ => .inl rfl

end Page

end CriticalCss
