import RemoteModel.Failure

/-!
# Wire formats

A model travels in one of four formats. The two JSON dialects differ in the name of the member
that tags an object with its type: `eClass` in the first one, `$type` in the second one. The XML
formats carry a text.

**Conversion.** Encoding for a dialect renames the other dialect's tag throughout the value,
unless the value holds the wanted tag already or holds no tag at all.
-/

namespace RemoteModel

/-- A wire format. -/
inductive Format where
  | json
  | jsonV2
  | xml
  | xmi
deriving DecidableEq, Repr

namespace Format

def all : List Format := [json, jsonV2, xml, xmi]

def name : Format → String
  | json => "json"
  | jsonV2 => "json-v2"
  | xml => "xml"
  | xmi => "xmi"

def ofName? (s : String) : Option Format := all.find? fun f => f.name = s

theorem ofName?_name (f : Format) : ofName? f.name = some f := by cases f <;> decide

end Format

/-- The name of the type tag in the first JSON dialect. -/
def typeTag : String := "eClass"

/-- The name of the type tag in the second JSON dialect. -/
def typeTagV2 : String := "$type"

namespace Json

mutual

/-- Some object inside the value has a member of the name. -/
def mentions (name : String) : Json → Bool
  | .obj members => mentionsMembers name members
  | .arr items => mentionsItems name items
  | _ => false

def mentionsItems (name : String) : List Json → Bool
  | [] => false
  | v :: rest => mentions name v || mentionsItems name rest

def mentionsMembers (name : String) : List (String × Json) → Bool
  | [] => false
  | (k, v) :: rest => k == name || mentions name v || mentionsMembers name rest

end

mutual

/-- The value with every member of one name under another name. Objects are written anew, member by
member, so where both names meet in one object the first place and the last value count. -/
def rename (source target : String) : Json → Json
  | .obj members => .obj (Entries.ofList (renameMembers source target members))
  | .arr items => .arr (renameItems source target items)
  | v => v

def renameItems (source target : String) : List Json → List Json
  | [] => []
  | v :: rest => rename source target v :: renameItems source target rest

def renameMembers (source target : String) : List (String × Json) → List (String × Json)
  | [] => []
  | (k, v) :: rest =>
    (if k = source then target else k, rename source target v) :: renameMembers source target rest

end

/-- Renames a tag, unless the value holds the wanted tag already. -/
def retag (source target : String) (v : Json) : Json :=
  if !mentions source v || mentions target v then v else rename source target v

end Json

namespace Format

/-- A value in a JSON dialect: a text is read, converted and written again. -/
def convert (source target : String) : Json → Except Failure Json
  | .str s =>
    match Json.read s with
    | .ok v => .ok (.str (Json.text (Json.retag source target v)))
    | .error fault => .error (.ofFault fault)
  | v => .ok (Json.retag source target v)

/-- A value in an XML format, which is a text. -/
def asText : Json → Except Failure Json
  | .str s => .ok (.str s)
  | _ => .error .notText

/-- A value in a format. -/
def encode : Format → Json → Except Failure Json
  | json => convert typeTagV2 typeTag
  | jsonV2 => convert typeTag typeTagV2
  | xml => asText
  | xmi => asText

/-- A value in the format of a name. -/
def encodeNamed (name : String) (v : Json) : Except Failure Json :=
  match ofName? name with
  | some f => f.encode v
  | none => .error (.unknownFormat name)

/-- The body of a request that carries a value in the format of a name. -/
def body (name : String) (v : Json) : Except Failure Json :=
  (encodeNamed name v).map fun encoded => .obj [("data", encoded)]

end Format

end RemoteModel
