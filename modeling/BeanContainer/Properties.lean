import BeanContainer.Json.Reader
import BeanContainer.Json.Writer
import BeanContainer.Json.Encodable
import BeanContainer.Json.Decoder
import BeanContainer.Mutation
/-!
# Properties

Free-form configuration: values under names, in the order of the names. Merging is shallow: a name
of the newer properties replaces the whole value, and no name is lost (`Dictionary.get?_merge`).
-/

namespace BeanContainer

/-- Values under names. -/
abbrev Properties := Dictionary String Json

/-- Why a text is not a set of properties. -/
inductive PropertiesError where
  /-- The text is not JSON. -/
  | json (e : Json.ReadError)
  /-- The text begins with a value other than an object. -/
  | notAnObject
  deriving DecidableEq, Repr

/-- Why a file does not hold properties. -/
inductive PropertiesFileError where
  | missing
  | notText
  | content (e : PropertiesError)
  deriving DecidableEq, Repr

def PropertiesFileError.message? : PropertiesFileError → Option String
  | .missing => some "No such file or directory (os error 2)"
  | .notText => some "stream did not contain valid UTF-8"
  | .content _ => none

namespace Properties

/-- Write a value that may have no JSON form. It is encoded before it is written. -/
def write (key : String) (v : Encodable) : Mutation EncodeError Properties Unit := do
  let j ← Mutation.attempt v.encode
  Mutation.change fun p => p.insert key j

theorem run_write (p : Properties) (key : String) (v : Encodable) :
    (write key v).run p =
      match v.encode with
      | .ok j => (.ok (), p.insert key j)
      | .error e => (.error e, p) := by
  rw [write, Mutation.run_attempt_bind]
  cases v.encode <;> rfl

/-- The properties after a write, unless it fails. -/
def set (p : Properties) (key : String) (v : Encodable) : Except EncodeError Properties :=
  match (write key v).run p with
  | (.ok (), written) => .ok written
  | (.error e, _) => .error e

/-- The value under a key, read as wanted. A missing key is read as `null`. -/
def getAs {α : Type} (p : Properties) (key : String) (wanted : Decoder α) : Except DecodeError α :=
  wanted ((p.get? key).getD .null)

/-- The properties as one object. -/
def toJson (p : Properties) : Json := .object p.toList

/-- The object read as properties. -/
def decoder : Decoder Properties
  | .object fields => .ok (Dictionary.ofList fields)
  | v => .error (.wrongType v "struct Properties")

/-- Read properties from a text. A text that begins with another value than an object is refused as
soon as that value is known: an array at its bracket, all others at their end. -/
def ofText (text : String) : Except PropertiesError Properties :=
  let cs := Json.Reader.skipBlanks text.toList
  if cs.head? = some '[' then .error .notAnObject
  else
    match Json.Reader.value Json.maxDepth cs with
    | .error e => .error (.json e)
    | .ok (.object fields, rest) =>
      match Json.Reader.skipBlanks rest.1 with
      | [] => .ok (Dictionary.ofList fields)
      | _ :: _ => .error (.json .malformed)
    | .ok _ => .error .notAnObject

/-- Read properties from the content of a file, which is `none` if there is no such file. -/
def ofFile (content : Option ByteArray) : Except PropertiesFileError Properties :=
  match content with
  | none => .error .missing
  | some bytes =>
    match String.fromUTF8? bytes with
    | none => .error .notText
    | some text => (ofText text).mapError .content

def diagnostic (p : Properties) : String :=
  Text.record "Properties"
    [("values", Text.mapping (p.toList.map fun e => (Text.quote e.1, e.2.diagnostic)))]

end Properties

end BeanContainer
