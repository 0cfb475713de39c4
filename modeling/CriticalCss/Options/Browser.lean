import CriticalCss.Options.Field
import CriticalCss.Options.Value

/-!
# Options of the browser

How the browser of a run is started, how its pages present themselves, and how many of them may
be open at a time.
-/

namespace CriticalCss

/-- How the browser of a run is started and used. -/
structure BrowserOptions where
  userAgent : String
  isCacheEnabled : Bool
  isJsEnabled : Bool
  /-- The most pages that are evaluated at a time; all at once without a number. -/
  concurrentTabs : Option Positive
  headless : Bool
  executablePath : Option String
deriving DecidableEq, Repr

namespace BrowserOptions

/-- The options of a run that does not give any. -/
def standard : BrowserOptions where
  userAgent := "Crittr 2.0.0"
  isCacheEnabled := false
  isJsEnabled := true
  concurrentTabs := some 4
  headless := true
  executablePath := none

/-- The names of the fields. -/
def userAgentName : FieldName := ⟨"userAgent", "user_agent"⟩
@[inherit_doc userAgentName] def isCacheEnabledName : FieldName :=
  ⟨"isCacheEnabled", "is_cache_enabled"⟩
@[inherit_doc userAgentName] def isJsEnabledName : FieldName := ⟨"isJsEnabled", "is_js_enabled"⟩
@[inherit_doc userAgentName] def concurrentTabsName : FieldName :=
  ⟨"concurrentTabs", "concurrent_tabs"⟩
@[inherit_doc userAgentName] def headlessName : FieldName := .plain "headless"
@[inherit_doc userAgentName] def executablePathName : FieldName :=
  ⟨"executablePath", "executable_path"⟩

def names : List FieldName :=
  [userAgentName, isCacheEnabledName, isJsEnabledName, concurrentTabsName, headlessName,
    executablePathName]

/-- The options with the given fields; the others are the standard ones. -/
def ofMembers (members : Members) : Checked BrowserOptions :=
  mk <$> members.optional userAgentName OptionValue.text standard.userAgent
    <*> members.optional isCacheEnabledName OptionValue.flag standard.isCacheEnabled
    <*> members.optional isJsEnabledName OptionValue.flag standard.isJsEnabled
    <*> members.optional concurrentTabsName (OptionValue.optional OptionValue.positive)
      standard.concurrentTabs
    <*> members.optional headlessName OptionValue.flag standard.headless
    <*> members.optional executablePathName (OptionValue.optional OptionValue.text)
      standard.executablePath
    <* members.nothingElse names

/-- Browser options given as an object. -/
def ofJson : Json → Checked BrowserOptions
  | .obj members => ofMembers members
  | _ => .fail (.notObject "instance of BrowserOptions")

def members (spelling : Spelling) (b : BrowserOptions) : Members :=
  [(userAgentName.spelled spelling, .str b.userAgent),
    (isCacheEnabledName.spelled spelling, .bool b.isCacheEnabled),
    (isJsEnabledName.spelled spelling, .bool b.isJsEnabled),
    (concurrentTabsName.spelled spelling, b.concurrentTabs.elim .null fun n => .int n.1),
    (headlessName.spelled spelling, .bool b.headless),
    (executablePathName.spelled spelling, .ofOption b.executablePath)]

end BrowserOptions

end CriticalCss
