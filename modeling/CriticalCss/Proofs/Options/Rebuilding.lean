import CriticalCss.Proofs.Options.Reading

/-!
# Options are read once

Whatever options were read from, with numbers as texts, a profile for the device or most fields
left out, their fields written out in either spelling are read as the same options
(`RunOptions.build_members`). Most types of fields hold only values that their readers take
again; the pixel density of the device is a number of which reading makes sure that it passes its
check (`RunOptions.isValid_device_of_ofMembers`).
-/

namespace CriticalCss

namespace OptionValue

theorem natural_int (n : Nat) : natural (.int n) = .good n := by
  have notNegative : ¬ (n : Int) < 0 := by omega
  rw [natural, whole, Checked.andThen, if_neg notNegative, Int.toNat_natCast]

end OptionValue

/-! ## The browser -/

namespace BrowserOptions

/-- What options of the browser are read from, field by field. -/
theorem ofMembers_eq_good_iff {members : Members} {b : BrowserOptions} :
    ofMembers members = .good b ↔
      members.optional userAgentName OptionValue.text standard.userAgent = .good b.userAgent ∧
      members.optional isCacheEnabledName OptionValue.flag standard.isCacheEnabled =
        .good b.isCacheEnabled ∧
      members.optional isJsEnabledName OptionValue.flag standard.isJsEnabled =
        .good b.isJsEnabled ∧
      members.optional concurrentTabsName (OptionValue.optional OptionValue.positive)
        standard.concurrentTabs = .good b.concurrentTabs ∧
      members.optional headlessName OptionValue.flag standard.headless = .good b.headless ∧
      members.optional executablePathName (OptionValue.optional OptionValue.text)
        standard.executablePath = .good b.executablePath ∧
      members.nothingElse names = .good () := by
  constructor
  · intro read
    simp only [ofMembers, Checked.seqLeft_eq_good_iff, Checked.seq_eq_good_iff,
      Checked.map_eq_good_iff] at read
    rcases read with ⟨⟨_, _, ⟨_, _, ⟨_, _, ⟨_, _, ⟨_, _, ⟨_, agent, rfl⟩, cache, rfl⟩, js, rfl⟩,
      tabs, rfl⟩, headless, rfl⟩, path, rfl⟩, ⟨⟩, rest⟩
    exact ⟨agent, cache, js, tabs, headless, path, rest⟩
  · intro fields
    obtain ⟨agent, cache, js, tabs, headless, path, rest⟩ := fields
    rw [ofMembers, agent, cache, js, tabs, headless, path, rest]
    rfl

/-- Options of the browser are read again from their fields, in both spellings. -/
theorem ofMembers_members (b : BrowserOptions) (spelling : Spelling) :
    ofMembers (b.members spelling) = .good b := by
  have tabs : OptionValue.optional OptionValue.positive
      (b.concurrentTabs.elim .null fun n => .int n.1) = .good b.concurrentTabs :=
    OptionValue.optional_elim nofun OptionValue.positive_int b.concurrentTabs
  have path : ∀ value : Option String,
      OptionValue.optional OptionValue.text (value.elim .null .str) = .good value :=
    OptionValue.optional_elim nofun fun _ => rfl
  rw [ofMembers_eq_good_iff]
  cases spelling with
  | camel | snake =>
    exact ⟨Members.optional_eq_good rfl rfl, Members.optional_eq_good rfl rfl,
      Members.optional_eq_good rfl rfl, Members.optional_eq_good rfl tabs,
      Members.optional_eq_good rfl rfl,
      Members.optional_eq_good rfl (path b.executablePath), rfl⟩

end BrowserOptions

/-! ## Devices -/

namespace DeviceOptions

theorem isValid_of_ofProfile {profile : String} {d : DeviceOptions}
    (known : ofProfile profile = .ok d) : d.IsValid := by
  unfold ofProfile at known
  split at known
  · cases known
    exact isValid_standard
  · cases known
    exact isValid_standard
  · cases known
    decide
  · cases known

/-- A device that was read, field by field or as a profile, is valid. -/
theorem isValid_of_ofJson {j : Json} {d : DeviceOptions} (read : ofJson j = .good d) :
    d.IsValid := by
  unfold ofJson at read
  split at read
  · split at read
    · cases read
      exact isValid_of_ofProfile (by assumption)
    · cases read
  · exact isValid_of_ofObject read

end DeviceOptions

/-! ## Options of a run -/

namespace RunOptions

/-- What options are read from, field by field. -/
theorem ofMembers_eq_good_iff {members : Members} {o : RunOptions} :
    ofMembers members = .good o ↔
      members.optional cssName (OptionValue.optional (OptionValue.strictText "css")) none =
        .good o.css ∧
      members.required urlsName pagesOfJson = .good (o.firstUrl, o.otherUrls) ∧
      members.optional timeoutName OptionValue.positive 30000 = .good o.timeout ∧
      members.optional pageLoadTimeoutName OptionValue.positive 2000 = .good o.pageLoadTimeout ∧
      members.optional pageRenderDelayName OptionValue.natural 250 = .good o.pageRenderDelay ∧
      members.optional deviceName DeviceOptions.ofJson .standard = .good o.device ∧
      members.optional browserName BrowserOptions.ofJson .standard = .good o.browser ∧
      members.optional keepSelectorsName OptionValue.texts [] = .good o.keepSelectors ∧
      members.optional removeSelectorsName OptionValue.texts [] = .good o.removeSelectors ∧
      members.optional dropKeyframesName OptionValue.flag true = .good o.dropKeyframes ∧
      members.optional outputRemainingCssName OptionValue.flag true =
        .good o.outputRemainingCss ∧
      members.optional blockRequestsName OptionValue.texts standardBlocks =
        .good o.blockRequests ∧
      members.optional takeScreenshotsName OptionValue.flag false = .good o.takeScreenshots ∧
      members.optional screenshotPathName (OptionValue.strictText "screenshot_path") "." =
        .good o.screenshotPath ∧
      members.forbidden screenshotNameGeneratorName .notFunction = .good () ∧
      members.optional printBrowserConsoleName OptionValue.flag false =
        .good o.printBrowserConsole ∧
      members.optional projectRootName OptionValue.text "/project" = .good o.projectRoot ∧
      members.optional pageAcquireAttemptsName OptionValue.positive 3 =
        .good o.pageAcquireAttempts ∧
      members.nothingElse names = .good () := by
  constructor
  · intro read
    simp only [ofMembers, Checked.seqLeft_eq_good_iff, Checked.seq_eq_good_iff,
      Checked.map_eq_good_iff] at read
    obtain ⟨read, ⟨⟩, rest⟩ := read
    obtain ⟨_, _, read, attempts, rfl⟩ := read
    obtain ⟨_, _, read, root, rfl⟩ := read
    obtain ⟨_, _, read, console, rfl⟩ := read
    obtain ⟨read, ⟨⟩, generator⟩ := read
    obtain ⟨_, _, read, path, rfl⟩ := read
    obtain ⟨_, _, read, screenshots, rfl⟩ := read
    obtain ⟨_, _, read, block, rfl⟩ := read
    obtain ⟨_, _, read, remaining, rfl⟩ := read
    obtain ⟨_, _, read, drop, rfl⟩ := read
    obtain ⟨_, _, read, remove, rfl⟩ := read
    obtain ⟨_, _, read, keep, rfl⟩ := read
    obtain ⟨_, _, read, browser, rfl⟩ := read
    obtain ⟨_, _, read, device, rfl⟩ := read
    obtain ⟨_, _, read, delay, rfl⟩ := read
    obtain ⟨_, _, read, load, rfl⟩ := read
    obtain ⟨_, _, read, timeout, rfl⟩ := read
    obtain ⟨_, _, read, pages, rfl⟩ := read
    obtain ⟨_, css, rfl⟩ := read
    exact ⟨css, pages, timeout, load, delay, device, browser, keep, remove, drop, remaining,
      block, screenshots, path, generator, console, root, attempts, rest⟩
  · intro fields
    obtain ⟨css, pages, timeout, load, delay, device, browser, keep, remove, drop, remaining,
      block, screenshots, path, generator, console, root, attempts, rest⟩ := fields
    rw [ofMembers, css, pages, timeout, load, delay, device, browser, keep, remove, drop,
      remaining, block, screenshots, path, generator, console, root, attempts, rest]
    rfl

/-- The device of options that were read is valid. -/
theorem isValid_device_of_ofMembers {members : Members} {o : RunOptions}
    (read : ofMembers members = .good o) : o.device.IsValid := by
  obtain ⟨-, -, -, -, -, device, -⟩ := ofMembers_eq_good_iff.1 read
  rcases Members.optional_eq_good_iff.1 device with ⟨-, same⟩ | ⟨_, _, -, given⟩
  · rw [← same]
    exact DeviceOptions.isValid_standard
  · exact DeviceOptions.isValid_of_ofJson given

/-- Options with a valid device are read again from their fields, in both spellings. -/
theorem ofMembers_members {o : RunOptions} (valid : o.device.IsValid) (spelling : Spelling) :
    ofMembers (o.members spelling) = .good o := by
  have css : ∀ value : Option String, OptionValue.optional (OptionValue.strictText "css")
      (value.elim .null .str) = .good value :=
    OptionValue.optional_elim nofun fun _ => rfl
  have device : DeviceOptions.ofJson (.obj (o.device.members spelling)) = .good o.device :=
    DeviceOptions.ofMembers_members valid spelling
  have browser : BrowserOptions.ofJson (.obj (o.browser.members spelling)) = .good o.browser :=
    BrowserOptions.ofMembers_members o.browser spelling
  rw [ofMembers_eq_good_iff]
  cases spelling with
  | camel | snake =>
    exact ⟨Members.optional_eq_good rfl (css o.css),
      Members.required_eq_good rfl (pagesOfJson_strings o.firstUrl o.otherUrls),
      Members.optional_eq_good rfl (OptionValue.positive_int o.timeout),
      Members.optional_eq_good rfl (OptionValue.positive_int o.pageLoadTimeout),
      Members.optional_eq_good rfl (OptionValue.natural_int o.pageRenderDelay),
      Members.optional_eq_good rfl device, Members.optional_eq_good rfl browser,
      Members.optional_eq_good rfl (OptionValue.texts_strings o.keepSelectors),
      Members.optional_eq_good rfl (OptionValue.texts_strings o.removeSelectors),
      Members.optional_eq_good rfl rfl, Members.optional_eq_good rfl rfl,
      Members.optional_eq_good rfl (OptionValue.texts_strings o.blockRequests),
      Members.optional_eq_good rfl rfl, Members.optional_eq_good rfl rfl, rfl,
      Members.optional_eq_good rfl rfl, Members.optional_eq_good rfl rfl,
      Members.optional_eq_good rfl (OptionValue.positive_int o.pageAcquireAttempts), rfl⟩

/-- A value stands for options if it has members which are read as these. -/
theorem build_eq_ok_iff {j : Json} {o : RunOptions} :
    build j = .ok o ↔ ∃ members, membersOfJson j = .ok members ∧ ofMembers members = .good o := by
  constructor
  · intro built
    cases given : membersOfJson j with
    | error e =>
      rw [build, given] at built
      cases built
    | ok members =>
      rw [build_of_members given] at built
      cases read : ofMembers members with
      | good a =>
        rw [read] at built
        cases built
        exact ⟨members, rfl, read⟩
      | bad problems =>
        rw [read] at built
        cases built
  · intro found
    obtain ⟨members, given, read⟩ := found
    rw [build_of_members given, read]
    rfl

/-- **Options are a fixed point of reading.** However options came about, their fields written out
in either spelling stand for the same options. -/
theorem build_members {j : Json} {o : RunOptions} (built : build j = .ok o)
    (spelling : Spelling) : build (.obj (o.members spelling)) = .ok o := by
  obtain ⟨_, -, read⟩ := build_eq_ok_iff.1 built
  exact build_eq_ok_iff.2
    ⟨_, rfl, ofMembers_members (isValid_device_of_ofMembers read) spelling⟩

/-- Numbers are given as texts and as a flag, a flag as a word, the number of tabs as null, and
most fields not at all. -/
theorem build_members_of_lenient_values :
    let device : Json := .obj [("scaleFactor", .str "1.5"), ("is_mobile", .int 1)]
    let browser : Json := .obj [("concurrentTabs", .null), ("headless", .str "Off")]
    let j : Json := .obj [("timeout", .str " +5_000.0 "), ("urls", .strings ["https://one/"]),
      ("page_render_delay", .bool true), ("device", device), ("browser", browser)]
    let o : RunOptions := { ofUrls "https://one/" [] with
      timeout := 5000
      pageRenderDelay := 1
      device := { DeviceOptions.standard with scaleFactor := 1.5, isMobile := true }
      browser := { BrowserOptions.standard with concurrentTabs := none, headless := false } }
    build j = .ok o ∧ build (.obj (o.members .snake)) = .ok o ∧
      build (.obj (o.members .camel)) = .ok o := by
  intro device browser j o
  have built : build j = .ok o := build_eq_ok_iff.2 ⟨_, rfl, by decide +kernel⟩
  exact ⟨built, build_members built .snake, build_members built .camel⟩

end RunOptions

end CriticalCss
