import CriticalCss.Options.Run

/-!
# Requests for critical CSS

A request names the pages that share a stylesheet and a few options; what it leaves out has the
standard value. Fields have one spelling here, and what no field takes is ignored.
-/

namespace CriticalCss

/-- The device of a request: the name of a profile, or field by field. -/
inductive RequestedDevice where
  | profile (name : String)
  | custom (device : DeviceOptions)
deriving DecidableEq, Repr

/-- A request for the critical CSS of some pages. -/
structure Request where
  template : String
  urls : List String
  css : Option String
  device : RequestedDevice
  keepSelectors : List String
  removeSelectors : List String
  dropKeyframes : Option Bool
  outputRemainingCss : Option Bool
  blockRequests : Option (List String)
deriving DecidableEq, Repr

/-- How a request is handed over. -/
inductive RequestForm where
  /-- As a value of this program. -/
  | direct
  /-- In the body of a message. -/
  | message
deriving DecidableEq, Repr

/-- What else could have been given in place of an object for a device. -/
def RequestForm.alternative : RequestForm → String
  | direct => DeviceOptions.instanceText
  | message => "object to extract fields from"

namespace RequestedDevice

/-- A device given by the name of a profile or as an object. What is neither is reported under
both readings. -/
def ofJson (form : RequestForm) : Json → Checked RequestedDevice
  | .str name => .good (profile name)
  | j =>
    match DeviceOptions.ofObject form.alternative j with
    | .good device => .good (custom device)
    | .bad problems =>
      .bad (⟨["str"], .notText⟩ :: problems.map (·.within "DeviceOptions"))

/-- The device as it is handed on. -/
def toJson : RequestedDevice → Json
  | profile name => .str name
  | custom device => .obj (device.members .snake)

end RequestedDevice

namespace Request

/-- The names of the fields. -/
def templateName : FieldName := .plain "template"
@[inherit_doc templateName] def urlsName : FieldName := .plain "urls"
@[inherit_doc templateName] def cssName : FieldName := .plain "css"
@[inherit_doc templateName] def deviceName : FieldName := .plain "device"
@[inherit_doc templateName] def keepSelectorsName : FieldName := .plain "keep_selectors"
@[inherit_doc templateName] def removeSelectorsName : FieldName := .plain "remove_selectors"
@[inherit_doc templateName] def dropKeyframesName : FieldName := .plain "drop_keyframes"
@[inherit_doc templateName] def outputRemainingCssName : FieldName :=
  .plain "output_remaining_css"
@[inherit_doc templateName] def blockRequestsName : FieldName := .plain "block_requests"

/-- A list of texts with at least one item. -/
def urlsOfJson (j : Json) : Checked (List String) :=
  (OptionValue.texts j).andThen fun
    | [] => .fail (.tooFew 1)
    | urls => .good urls

/-- The request with the given fields. -/
def ofMembers (form : RequestForm) (members : Members) : Checked Request :=
  mk <$> members.required templateName OptionValue.text
    <*> members.required urlsName urlsOfJson
    <*> members.optional cssName (OptionValue.optional OptionValue.text) none
    <*> members.optional deviceName (RequestedDevice.ofJson form) (.profile "desktop")
    <*> members.optional keepSelectorsName OptionValue.texts []
    <*> members.optional removeSelectorsName OptionValue.texts []
    <*> members.optional dropKeyframesName (OptionValue.optional OptionValue.flag) none
    <*> members.optional outputRemainingCssName (OptionValue.optional OptionValue.flag) none
    <*> members.optional blockRequestsName (OptionValue.optional OptionValue.texts) none

/-- A request in the body of a message. -/
def ofJson : Json → Checked Request
  | .obj members => ofMembers .message members
  | _ => .fail (.notObject RequestForm.message.alternative)

/-- The fields of a request, as they are kept with its job. -/
def members (r : Request) : Members :=
  [(templateName.camel, .str r.template), (urlsName.camel, .strings r.urls),
    (cssName.camel, .ofOption r.css), (deviceName.camel, r.device.toJson),
    (keepSelectorsName.camel, .strings r.keepSelectors),
    (removeSelectorsName.camel, .strings r.removeSelectors),
    (dropKeyframesName.camel, r.dropKeyframes.elim .null .bool),
    (outputRemainingCssName.camel, r.outputRemainingCss.elim .null .bool),
    (blockRequestsName.camel, r.blockRequests.elim .null .strings)]

/-- What a request asks of a run: its fields without the template, and without those that have
no value. -/
def optionMembers (r : Request) : Members :=
  r.members.filter fun member => member.1 != templateName.camel && member.2 != .null

/-- The options of the run that a request asks for. -/
def options (r : Request) : Except OptionsError RunOptions :=
  RunOptions.build (.obj r.optionMembers)

end Request

end CriticalCss
