import TemplateCompiler.Json.Reading

/-! # Records and variants in JSON

How JSON values are taken apart into the fields of a record or the cases of a variant. A
record is an object, or an array of its fields in order; a case without content is its
name.
-/

namespace TemplateCompiler.Json

/-- The text of a string. -/
def text? : Json → Option String
  | string text => some text
  | _ => none

/-- The value of a word. -/
def bool? : Json → Option Bool
  | bool value => some value
  | _ => none

/-- The value of an integer that fits into sixty-four bits without a sign. -/
def nat? : Json → Option Nat
  | nat value => if value < Nat.pow 2 64 then some value else none
  | _ => none

/-- The items of an array. -/
def items? : Json → Option (List Json)
  | array items => some items
  | _ => none

/-- A value that may be null. -/
def nullable? {α : Type} (read? : Json → Option α) : Json → Option (Option α)
  | null => some none
  | value => (read? value).map some

/-- The only value of a key; none where the key stands more than once. -/
def lookup? (members : List (String × Json)) (key : String) : Option (Option Json) :=
  match members.filter fun member => member.1 == key with
  | [] => some none
  | [(_, value)] => some (some value)
  | _ => none

/-- The fields of a record in the order of their names, none for a field that is not
given. Other keys are passed over; items beyond the last field are refused. -/
def fields? (names : List String) : Json → Option (List (Option Json))
  | object members => names.mapM (lookup? members)
  | array items =>
    if items.length ≤ names.length then
      some (items.map some ++ List.replicate (names.length - items.length) none)
    else none
  | _ => none

/-- A field that has to be given. -/
def required? {α : Type} (read? : Json → Option α) : Option Json → Option α
  | some value => read? value
  | none => none

/-- A field with a default. -/
def withDefault? {α : Type} (read? : Json → Option α) (default : α) : Option Json → Option α
  | some value => read? value
  | none => some default

/-- The name of a case without content: its name alone, or with null as its content. -/
def case? : Json → Option String
  | string name => some name
  | object [(name, null)] => some name
  | _ => none

/-- A case whose content may be an empty object in the place of null. -/
def lenient : Json → Json
  | object [(name, object [])] => object [(name, null)]
  | value => value

/-- The name of a case and its content, where they are two fields of a record. In an
object the name is a case without content itself, and content that stands before the name
is read leniently. An array holds both, the name as a plain text. -/
def tagged? (tag content : String) : Json → Option (String × Option Json)
  | object members => do
    let name ← required? case? (← lookup? members tag)
    let value? ← lookup? members content
    match members.find? fun member => member.1 == tag || member.1 == content with
    | some (key, _) => return (name, if key == tag then value? else value?.map lenient)
    | none => none
  | array [string name, content] => some (name, some content)
  | _ => none

end TemplateCompiler.Json
