import CriticalCss.Options.Run

/-!
# Standard options

A run needs to be told its pages and nothing else. `RunOptions.ofUrls` is what it does then, and
`RunOptions.build_urls` says that this is what an object with the pages alone is read as.
-/

namespace CriticalCss

namespace Checked

theorem sequence_map_good {α : Type} (values : List α) :
    sequence (values.map good) = good values := by
  induction values with
  | nil => rfl
  | cons value values ih =>
    rw [List.map_cons, sequence, ih]
    rfl

end Checked

theorem OptionValue.textItems_map_str (texts : List String) :
    textItems (texts.map .str) = .good texts := by
  have good : ((texts.map Json.str).mapIdx fun i item => (text item).within (toString i)) =
      texts.map .good := by
    refine List.ext_getElem (by simp) fun i _ _ => ?_
    simp [text, Checked.within]
  rw [textItems, good, Checked.sequence_map_good]

namespace RunOptions

/-- The options of a run for which only the pages are given. -/
def ofUrls (first : String) (others : List String) : RunOptions where
  css := none
  firstUrl := first
  otherUrls := others
  timeout := 30000
  pageLoadTimeout := 2000
  pageRenderDelay := 250
  device := .standard
  browser := .standard
  keepSelectors := []
  removeSelectors := []
  dropKeyframes := true
  outputRemainingCss := true
  blockRequests := standardBlocks
  takeScreenshots := false
  screenshotPath := "."
  printBrowserConsole := false
  projectRoot := "/project"
  pageAcquireAttempts := 3

variable (first : String) (others : List String)

theorem pagesOfJson_strings :
    pagesOfJson (.strings (first :: others)) = .good (first, others) := by
  have read := OptionValue.textItems_map_str (first :: others)
  rw [List.map_cons] at read
  simp only [Json.strings, List.map_cons, pagesOfJson, read]
  rfl

theorem ofMembers_urls :
    ofMembers [("urls", .strings (first :: others))] = .good (ofUrls first others) := by
  have pages : Members.required [("urls", .strings (first :: others))] urlsName pagesOfJson =
      .good (first, others) := by
    change (pagesOfJson (.strings (first :: others))).within "urls" = _
    rw [pagesOfJson_strings]
    rfl
  rw [ofMembers, pages]
  rfl

/-- Options are built from the members of a value. -/
theorem build_of_members {j : Json} {members : Members} (given : membersOfJson j = .ok members) :
    build j = (ofMembers members).toExcept.mapError .invalid := by
  rw [build, given]
  rfl

/-- **An object with the pages alone is read as the standard options.** -/
theorem build_urls :
    build (.obj [("urls", .strings (first :: others))]) = .ok (ofUrls first others) := by
  rw [build_of_members rfl, ofMembers_urls]
  rfl

end RunOptions

end CriticalCss
