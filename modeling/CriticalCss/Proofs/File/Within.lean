import CriticalCss.Proofs.Text.Blank
import CriticalCss.Url
import Mathlib.Data.List.Induction

/-!
# Files of the project

A path may hold dots: one dot stays where it is, two lead one level up. `FilePath.resolved` follows
the names of a path from the root of all files, and so tells where the path leads if no link is on
the way. What some names do from any place is their `FilePath.Trail`: so many levels up, and down
again by these names (`FilePath.foldl_follow`).

The path of a local page is the root of the project and the names of the page
(`Url.localPath_eq`): whatever slashes and backslashes the address starts with, no page replaces
the root. So a page is in the project unless its names lead up from the root, and a page whose names
do is in the project only if it comes back by the names of the root itself
(`Url.localPath_isWithin_iff`). Nothing keeps pages from leading up
(`Url.local_page_leaves_project`).
-/

namespace CriticalCss

namespace FilePath

/-! ## Following names -/

/-- Where a name leads from a place, which is told by the names that lead to it from the root of
all files. There is nothing above the root. -/
def follow (place : List String) (name : String) : List String :=
  if name = ".." then place.dropLast else if name = "." then place else place ++ [name]

/-- The names that lead from the root of all files to where a path leads. -/
def resolved (path : FilePath) : List String :=
  path.names.foldl follow []

/-- The path starts at the root of all files and leads to another one's place or below it. -/
structure IsWithin (path base : FilePath) : Prop where
  absolute : path.isAbsolute = true
  lead : path.lead = base.lead
  below : base.resolved <+: path.resolved

instance (path base : FilePath) : Decidable (path.IsWithin base) :=
  decidable_of_iff
    (path.isAbsolute = true ∧ path.lead = base.lead ∧ base.resolved <+: path.resolved)
    ⟨fun h => ⟨h.1, h.2.1, h.2.2⟩, fun h => ⟨h.absolute, h.lead, h.below⟩⟩

/-- What names do from any place: they lead some levels up, and from there down by some names. -/
structure Trail where
  up : Nat
  down : List String
deriving DecidableEq, Repr

namespace Trail

/-- The trail with one more name. -/
def follow (t : Trail) (name : String) : Trail :=
  if name = ".." then
    if t.down = [] then ⟨t.up + 1, []⟩ else ⟨t.up, t.down.dropLast⟩
  else if name = "." then t
  else ⟨t.up, t.down ++ [name]⟩

def ofNames (names : List String) : Trail :=
  names.foldl follow ⟨0, []⟩

theorem ofNames_append_singleton (names : List String) (name : String) :
    ofNames (names ++ [name]) = (ofNames names).follow name :=
  List.foldl_append

/-- Where a trail leads from a place. -/
def goal (t : Trail) (place : List String) : List String :=
  place.take (place.length - t.up) ++ t.down

/-- One more name leads on from where the trail led. -/
theorem goal_follow (t : Trail) (name : String) (place : List String) :
    (t.follow name).goal place = FilePath.follow (t.goal place) name := by
  unfold follow FilePath.follow
  by_cases leads_up : name = ".."
  · rw [if_pos leads_up, if_pos leads_up]
    split
    · rename_i top
      change place.take (place.length - (t.up + 1)) ++ [] = _
      rw [goal, top, List.append_nil, List.append_nil, List.dropLast_eq_take, List.length_take,
        List.take_take]
      congr 1
      omega
    · rename_i below
      rw [goal, goal, List.dropLast_append_of_ne_nil below]
  · rw [if_neg leads_up, if_neg leads_up]
    split
    · rfl
    · rw [goal, goal, List.append_assoc]

end Trail

/-- **Names lead from any place where their trail leads.** -/
theorem foldl_follow (names place : List String) :
    names.foldl follow place = (Trail.ofNames names).goal place := by
  induction names using List.reverseRecOn with
  | nil => simp [Trail.ofNames, Trail.goal]
  | append_singleton names name ih =>
    rw [List.foldl_append, ih, Trail.ofNames_append_singleton, Trail.goal_follow]
    rfl

/-- Names without dots lead straight down. -/
theorem ofNames_eq_of_plain {names : List String}
    (plain : ∀ name ∈ names, name ≠ ".." ∧ name ≠ ".") :
    Trail.ofNames names = ⟨0, names⟩ := by
  induction names using List.reverseRecOn with
  | nil => rfl
  | append_singleton names name ih =>
    rcases List.forall_mem_append.1 plain with ⟨before, last⟩
    rcases last name List.mem_cons_self with ⟨two, one⟩
    rw [Trail.ofNames_append_singleton, ih before, Trail.follow, if_neg two, if_neg one]

/-- A trail that leads to a place again, or below it, comes down by the last names of the place. -/
theorem prefix_goal_iff {t : Trail} {place : List String} :
    place <+: t.goal place ↔ place.drop (place.length - t.up) <+: t.down := by
  rw [Trail.goal]
  constructor
  · intro back
    apply (List.prefix_append_right_inj (place.take (place.length - t.up))).1
    rw [List.take_append_drop]
    exact back
  · intro back
    calc place = place.take (place.length - t.up) ++ place.drop (place.length - t.up) :=
          (List.take_append_drop _ _).symm
      _ <+: place.take (place.length - t.up) ++ t.down := (List.prefix_append_right_inj _).2 back

/-! ## Trails that stay below their start -/

theorem Trail.up_of_up_follow {t : Trail} {name : String} (below : (t.follow name).up = 0) :
    t.up = 0 := by
  unfold follow at below
  split at below
  · split at below
    · cases below
    · exact below
  · split at below
    · exact below
    · exact below

/-- While a trail stays below its start, it has led down as often as it did not lead up again. -/
theorem length_down {names : List String} (single : "." ∉ names)
    (below : (Trail.ofNames names).up = 0) :
    (Trail.ofNames names).down.length + 2 * names.count ".." = names.length := by
  induction names using List.reverseRecOn with
  | nil => rfl
  | append_singleton names name ih =>
    rw [List.mem_append, not_or, List.mem_singleton] at single
    rw [Trail.ofNames_append_singleton] at below ⊢
    have before := ih single.1 (Trail.up_of_up_follow below)
    rw [List.count_append, List.length_append, List.length_singleton, List.count_singleton]
    unfold Trail.follow at below ⊢
    by_cases leads_up : name = ".."
    · rw [if_pos leads_up] at below ⊢
      split
      · rename_i top
        rw [if_pos top] at below
        cases below
      · rename_i some
        have := List.length_pos_iff.2 some
        simp only [leads_up, List.length_dropLast, beq_self_eq_true, if_true]
        omega
    · simp only [leads_up, Ne.symm single.2, beq_iff_eq, if_false, List.length_append,
        List.length_singleton]
      omega

/-- A trail stays below its start just if no part of it from the start leads up more often than
down. -/
theorem up_eq_zero_iff {names : List String} (single : "." ∉ names) :
    (Trail.ofNames names).up = 0 ↔
      ∀ start, start <+: names → 2 * start.count ".." ≤ start.length := by
  induction names using List.reverseRecOn with
  | nil => simp [Trail.ofNames]
  | append_singleton names name ih =>
    have before : "." ∉ names := fun mem => single (List.mem_append_left _ mem)
    constructor
    · intro below start part
      rcases List.prefix_concat_iff.1 part with rfl | earlier
      · have := length_down single below
        omega
      · rw [Trail.ofNames_append_singleton] at below
        exact (ih before).1 (Trail.up_of_up_follow below) start earlier
    · intro every
      have below := (ih before).2 fun start part =>
        every start (part.trans (List.prefix_append _ _))
      have counted := length_down before below
      have whole := every _ (List.prefix_refl _)
      rw [List.count_append, List.length_append, List.length_singleton] at whole
      rw [Trail.ofNames_append_singleton]
      unfold Trail.follow
      split
      · rename_i leads_up
        rw [leads_up, List.count_singleton_self] at whole
        rw [if_neg]
        · exact below
        · intro top
          rw [top, List.length_nil] at counted
          omega
      · split <;> exact below

/-! ## Texts of paths -/

/-- The names of a path that is read from a text are neither empty nor single dots. -/
theorem ne_of_mem_names_ofText {text name : String} (mem : name ∈ (ofText text).names) :
    name ≠ "" ∧ name ≠ "." := by
  have kept := (List.mem_filter.1 mem).2
  simpa using kept

/-- A text that does not start with a slash is a path that goes on from where it is seen. -/
theorem lead_ofText {text : String} (relative : ∀ c ∈ text.toList.head?, c ≠ '/') :
    (ofText text).lead = "" := by
  have none : text.toList.takeWhile (· == '/') = [] := by
    cases shape : text.toList with
    | nil => rfl
    | cons c rest =>
      rw [shape] at relative
      rw [List.takeWhile_cons_of_neg]
      simpa using relative c rfl
  rw [ofText, leadOf, none]
  rfl

theorem join_of_lead {base path : FilePath} (relative : path.lead = "") :
    base.join path = ⟨base.lead, base.names ++ path.names⟩ := by
  rw [join, isAbsolute, relative]
  rfl

end FilePath

/-! ## Local pages -/

namespace Url

open FilePath

/-- The names in the path of a local page: neither those of a query or a fragment nor what slashes
and backslashes in front could make of it. -/
def pageNames (url : String) : List String :=
  let page := url.toList.takeWhile fun c => c ≠ '?' && c ≠ '#'
  (ofText (String.ofList (page.dropWhile fun c => c = '/' || c = '\\'))).names

/-- **The path of a local page is the root of the project and the names of the page.** -/
theorem localPath_eq (root url : String) :
    localPath root url = ⟨(ofText root).lead, (ofText root).names ++ pageNames url⟩ := by
  refine join_of_lead (lead_ofText fun c first => ?_)
  rw [String.toList_ofList] at first
  have stopped := List.head?_dropWhile_not (fun c => c = '/' || c = '\\')
    (url.toList.takeWhile fun c => c ≠ '?' && c ≠ '#')
  rw [Option.mem_def.1 first] at stopped
  rintro rfl
  simp at stopped

theorem single_not_mem_pageNames (url : String) : "." ∉ pageNames url :=
  fun mem => (ne_of_mem_names_ofText mem).2 rfl

/-- **Where local pages are.** Whatever the address is, the path of its page leads from the root of
the project where the trail of its names leads. So it is the root or lies below it just if the
trail, where it leads up from the root, comes down again by the names of the root; that is so if
no part of the names leads up more often than down. -/
theorem localPath_isWithin_iff {root : String} (absolute : (ofText root).isAbsolute = true)
    (plain : ".." ∉ (ofText root).names) (url : String) :
    let base := ofText root
    let trail := Trail.ofNames (pageNames url)
    (localPath root url).lead = base.lead ∧
      (localPath root url).resolved =
        base.names.take (base.names.length - trail.up) ++ trail.down ∧
      ((localPath root url).IsWithin base ↔
        base.names.drop (base.names.length - trail.up) <+: trail.down) ∧
      ((∀ start, start <+: pageNames url → 2 * start.count ".." ≤ start.length) →
        (localPath root url).IsWithin base) := by
  intro base trail
  have straight : base.resolved = base.names := by
    rw [resolved, foldl_follow, ofNames_eq_of_plain fun name mem =>
      ⟨ne_of_mem_of_not_mem mem plain, (ne_of_mem_names_ofText mem).2⟩]
    rfl
  have leads : (localPath root url).resolved = trail.goal base.names := by
    rw [resolved, localPath_eq, List.foldl_append, foldl_follow (pageNames url)]
    exact congrArg trail.goal straight
  have within : (localPath root url).IsWithin base ↔
      base.names.drop (base.names.length - trail.up) <+: trail.down := by
    rw [← prefix_goal_iff, ← leads, ← straight]
    constructor
    · exact fun h => h.below
    · intro below
      refine ⟨?_, ?_, below⟩
      · rw [localPath_eq]
        exact absolute
      · rw [localPath_eq]
  refine ⟨by rw [localPath_eq], leads, within, fun stays => within.2 ?_⟩
  have below : trail.up = 0 := (up_eq_zero_iff (single_not_mem_pageNames url)).2 stays
  rw [below, Nat.sub_zero, List.drop_length]
  exact List.nil_prefix

/-- One page goes up and down inside the project, the other one leads to a neighbour of it. -/
theorem localPath_isWithin_iff_of_two_pages :
    let root := "/srv/./web/"
    let page := "\\/a/../b.html?x=/../..#top"
    let neighbour := "a/../../web2/b.html"
    ((ofText root).isAbsolute = true ∧ ".." ∉ (ofText root).names) ∧
      (localPath root page).IsWithin (ofText root) ∧
      ¬(localPath root neighbour).IsWithin (ofText root) := by
  intro root page neighbour
  have absolute : (ofText root).isAbsolute = true := by decide +kernel
  have plain : ".." ∉ (ofText root).names := by decide +kernel
  rcases localPath_isWithin_iff absolute plain page with ⟨-, -, page_within, -⟩
  rcases localPath_isWithin_iff absolute plain neighbour with ⟨-, -, neighbour_within, -⟩
  refine ⟨⟨absolute, plain⟩, page_within.2 (by decide +kernel), fun within => ?_⟩
  exact absurd (neighbour_within.1 within) (by decide +kernel)

/-- **Local pages can leave the project**: dots in an address lead up from its root. -/
theorem local_page_leaves_project :
    isLocal "../etc/passwd" = .ok true ∧ (ofText "/project").isAbsolute = true ∧
      ".." ∉ (ofText "/project").names ∧
      (localPath "/project" "../etc/passwd").resolved = ["etc", "passwd"] ∧
      ¬(localPath "/project" "../etc/passwd").IsWithin (ofText "/project") := by
  decide +kernel

end Url

end CriticalCss
