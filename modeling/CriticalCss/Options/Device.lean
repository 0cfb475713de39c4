import CriticalCss.Options.Field
import CriticalCss.Options.Value

/-!
# The emulated device

Every page of a run is shown on one device: a viewport, its pixel density, and whether it is a
touch screen or a mobile. A device is given field by field or as one of three profiles.
-/

namespace CriticalCss

/-- Width and height in pixels. -/
structure Viewport where
  width : Positive
  height : Positive
deriving DecidableEq, Repr

/-- The device that every page of a run is shown on. -/
structure DeviceOptions where
  width : Positive
  height : Positive
  scaleFactor : Float
  isMobile : Bool
  hasTouch : Bool
  isLandscape : Bool
deriving DecidableEq, Repr

namespace DeviceOptions

/-- The device of a run that does not ask for one. -/
def standard : DeviceOptions where
  width := 1200
  height := 1080
  scaleFactor := 1.0
  isMobile := false
  hasTouch := false
  isLandscape := false

/-- The visible area; a device held in landscape is not higher than wide. -/
def viewport (d : DeviceOptions) : Viewport :=
  if d.isLandscape && d.width.1 < d.height.1 then ⟨d.height, d.width⟩ else ⟨d.width, d.height⟩

/-! ## Profiles -/

/-- A letter in lower case, as far as it makes a difference for the names of profiles: the Latin
letters, and the Kelvin sign, whose lower case is a `k`. -/
def lowerLetter (c : Char) : Char :=
  if c = '\u212A' then 'k' else c.toLower

/-- The device of a profile, whose name may be written in any letter case. -/
def ofProfile (profile : String) : Except UnknownProfile DeviceOptions :=
  match String.ofList (profile.toList.map lowerLetter) with
  | "desktop" => .ok { standard with width := 1440, height := 900 }
  | "tablet" => .ok { standard with width := 1024, height := 768, hasTouch := true }
  | "mobile" => .ok { standard with
      width := 390, height := 844, scaleFactor := 3.0, isMobile := true, hasTouch := true }
  | _ => .error ⟨profile⟩

/-! ## Reading and writing -/

/-- The names of the fields. -/
def widthName : FieldName := .plain "width"
@[inherit_doc widthName] def heightName : FieldName := .plain "height"
@[inherit_doc widthName] def scaleFactorName : FieldName := ⟨"scaleFactor", "scale_factor"⟩
@[inherit_doc widthName] def isMobileName : FieldName := ⟨"isMobile", "is_mobile"⟩
@[inherit_doc widthName] def hasTouchName : FieldName := ⟨"hasTouch", "has_touch"⟩
@[inherit_doc widthName] def isLandscapeName : FieldName := ⟨"isLandscape", "is_landscape"⟩

def names : List FieldName :=
  [widthName, heightName, scaleFactorName, isMobileName, hasTouchName, isLandscapeName]

/-- The device with the given fields; the others are those of the standard device. -/
def ofMembers (members : Members) : Checked DeviceOptions :=
  mk <$> members.optional widthName OptionValue.positive standard.width
    <*> members.optional heightName OptionValue.positive standard.height
    <*> members.optional scaleFactorName OptionValue.positiveNumber standard.scaleFactor
    <*> members.optional isMobileName OptionValue.flag standard.isMobile
    <*> members.optional hasTouchName OptionValue.flag standard.hasTouch
    <*> members.optional isLandscapeName OptionValue.flag standard.isLandscape
    <* members.nothingElse names

/-- A device given as an object; `alternative` is what else could have been given. -/
def ofObject (alternative : String) : Json → Checked DeviceOptions
  | .obj members => ofMembers members
  | _ => .fail (.notObject alternative)

/-- What may be given instead of an object. -/
def instanceText : String := "instance of DeviceOptions"

/-- A device given as an object or by the name of its profile. -/
def ofJson : Json → Checked DeviceOptions
  | .str profile =>
    match ofProfile profile with
    | .ok device => .good device
    | .error cause => .fail (.unknownProfile cause)
  | j => ofObject instanceText j

def members (spelling : Spelling) (d : DeviceOptions) : Members :=
  [(widthName.spelled spelling, .int d.width.1), (heightName.spelled spelling, .int d.height.1),
    (scaleFactorName.spelled spelling, .float d.scaleFactor),
    (isMobileName.spelled spelling, .bool d.isMobile),
    (hasTouchName.spelled spelling, .bool d.hasTouch),
    (isLandscapeName.spelled spelling, .bool d.isLandscape)]

end DeviceOptions

def Viewport.toJson (v : Viewport) : Json :=
  .obj [("width", .int v.width.1), ("height", .int v.height.1)]

end CriticalCss
