/-!
# JSON values

JSON as data: objects keep the order of their members, and integers are told from numbers with
a fraction or an exponent. `Json.strip` deletes members by name at every depth.
-/

namespace CriticalCss

/-- A JSON value. -/
inductive Json where
  | null
  | bool (value : Bool)
  | int (value : Int)
  | float (value : Float)
  | str (value : String)
  | arr (items : List Json)
  | obj (members : List (String × Json))
deriving Inhabited, Repr

namespace Json

mutual

/-- Equality of values, the order of members included. -/
def decEq : (a b : Json) → Decidable (a = b)
  | .null, .null => isTrue rfl
  | .bool a, .bool b =>
    if h : a = b then isTrue (h ▸ rfl) else isFalse fun e => h (Json.bool.inj e)
  | .int a, .int b =>
    if h : a = b then isTrue (h ▸ rfl) else isFalse fun e => h (Json.int.inj e)
  | .float a, .float b =>
    if h : a = b then isTrue (h ▸ rfl) else isFalse fun e => h (Json.float.inj e)
  | .str a, .str b =>
    if h : a = b then isTrue (h ▸ rfl) else isFalse fun e => h (Json.str.inj e)
  | .arr as, .arr bs =>
    match decEqItems as bs with
    | isTrue h => isTrue (h ▸ rfl)
    | isFalse h => isFalse fun e => h (Json.arr.inj e)
  | .obj as, .obj bs =>
    match decEqMembers as bs with
    | isTrue h => isTrue (h ▸ rfl)
    | isFalse h => isFalse fun e => h (Json.obj.inj e)
  | .null, .bool _ | .null, .int _ | .null, .float _ | .null, .str _ | .null, .arr _
  | .null, .obj _ | .bool _, .null | .bool _, .int _ | .bool _, .float _ | .bool _, .str _
  | .bool _, .arr _ | .bool _, .obj _ | .int _, .null | .int _, .bool _ | .int _, .float _
  | .int _, .str _ | .int _, .arr _ | .int _, .obj _ | .float _, .null | .float _, .bool _
  | .float _, .int _ | .float _, .str _ | .float _, .arr _ | .float _, .obj _ | .str _, .null
  | .str _, .bool _ | .str _, .int _ | .str _, .float _ | .str _, .arr _ | .str _, .obj _
  | .arr _, .null | .arr _, .bool _ | .arr _, .int _ | .arr _, .float _ | .arr _, .str _
  | .arr _, .obj _ | .obj _, .null | .obj _, .bool _ | .obj _, .int _ | .obj _, .float _
  | .obj _, .str _ | .obj _, .arr _ => isFalse nofun

/-- Equality of the items of two arrays. -/
def decEqItems : (as bs : List Json) → Decidable (as = bs)
  | [], [] => isTrue rfl
  | a :: as, b :: bs =>
    match decEq a b, decEqItems as bs with
    | isTrue h, isTrue t => isTrue (h ▸ t ▸ rfl)
    | isFalse h, _ => isFalse fun e => h (List.cons.inj e).1
    | _, isFalse t => isFalse fun e => t (List.cons.inj e).2
  | [], _ :: _ | _ :: _, [] => isFalse nofun

/-- Equality of the members of two objects. -/
def decEqMembers : (as bs : List (String × Json)) → Decidable (as = bs)
  | [], [] => isTrue rfl
  | (k, a) :: as, (l, b) :: bs =>
    if hk : k = l then
      match decEq a b, decEqMembers as bs with
      | isTrue h, isTrue t => isTrue (hk ▸ h ▸ t ▸ rfl)
      | isFalse h, _ => isFalse fun e => h (Prod.mk.inj (List.cons.inj e).1).2
      | _, isFalse t => isFalse fun e => t (List.cons.inj e).2
    else isFalse fun e => hk (Prod.mk.inj (List.cons.inj e).1).1
  | [], _ :: _ | _ :: _, [] => isFalse nofun

end

instance : DecidableEq Json := decEq

def ofOption (s : Option String) : Json :=
  s.elim null str

def strings (items : List String) : Json :=
  arr (items.map str)

/-- The member of an object with the given name. -/
def get? (j : Json) (name : String) : Option Json :=
  match j with
  | obj members => members.lookup name
  | _ => none

/-- The member of an object with the given name, `null` if there is none. -/
def get (j : Json) (name : String) : Json :=
  (j.get? name).getD null

/-- The items of an array of strings; none if the value is anything else. -/
def strings? : Json → Option (List String)
  | arr items => items.mapM fun
    | str s => some s
    | _ => none
  | _ => none

/-- Sets a member: a new name goes to the end, a known one keeps its place. -/
def setMember (name : String) (value : Json) : List (String × Json) → List (String × Json)
  | [] => [(name, value)]
  | (key, old) :: rest =>
    if key = name then (key, value) :: rest else (key, old) :: setMember name value rest

/-- The value without the members named in `excluded`, at every depth. -/
def strip (excluded : List String) : Json → Json
  | arr items => arr (stripItems items)
  | obj members => obj (stripMembers members)
  | j => j
where
  /-- `strip` on the items of an array. -/
  stripItems : List Json → List Json
    | [] => []
    | item :: rest => strip excluded item :: stripItems rest
  /-- `strip` on the members of an object. -/
  stripMembers : List (String × Json) → List (String × Json)
    | [] => []
    | (name, value) :: rest =>
      if name ∈ excluded then stripMembers rest
      else (name, strip excluded value) :: stripMembers rest

/-- Whether a condition holds of a value as such: zero, `false`, `null` and everything empty
count as false. -/
def truth : Json → Bool
  | null => false
  | bool b => b
  | int n => n != 0
  | float x => x != 0.0
  | str s => s != ""
  | arr items => !items.isEmpty
  | obj members => !members.isEmpty

/-- The name of the type of a value, as messages show it. -/
def typeName : Json → String
  | null => "NoneType"
  | bool _ => "bool"
  | int _ => "int"
  | float _ => "float"
  | str _ => "str"
  | arr _ => "list"
  | obj _ => "dict"

theorem sizeOf_lt_of_lookup {members : List (String × Json)} {name : String} {value : Json}
    (found : members.lookup name = some value) : sizeOf value < sizeOf members := by
  induction members with
  | nil => simp at found
  | cons member rest ih =>
    obtain ⟨key, first⟩ := member
    simp only [List.lookup_cons] at found
    split at found
    · cases found
      simp
      omega
    · have := ih found
      simp
      omega

end Json

end CriticalCss
