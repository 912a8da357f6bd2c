import CloudreveAdmin.Js.Value

/-!
# `JSON.stringify` and `JSON.parse`

The group form keeps its Aria2 options as JSON text: `EditGroupPreload` prints the object the
server sends with `JSON.stringify` and `GroupForm.submit` reads the text back with
`JSON.parse`, showing a warning toast instead of saving when the text is not JSON. Both are
functions of the JavaScript runtime, not of this repository. We therefore take them as a
`JsonCodec`: a printer and a parser with the two properties of the runtime's functions the
components rely on, namely that parsing a printed JSON value gives the value back and that
`"{}"` is the empty object. `CloudreveAdmin.Js.JsonText` builds one, which shows that the
contract can be met.

A JSON value has neither `undefined` nor `NaN` in it, and no object in it repeats a key:
it is what `JSON.parse` can return and what the server sends.
-/

namespace CloudreveAdmin

namespace JsValue

mutual
/-- `v` is a JSON value. -/
def IsJson : JsValue → Prop
  | .undefined | .nan => False
  | .null | .bool _ | .num _ | .str _ => True
  | .arr items => AllJson items
  | .obj fields => (fields.map Prod.fst).Nodup ∧ AllJsonFields fields
/-- Every item is a JSON value. -/
def AllJson : List JsValue → Prop
  | [] => True
  | v :: vs => v.IsJson ∧ AllJson vs
/-- Every field value is a JSON value. -/
def AllJsonFields : List (String × JsValue) → Prop
  | [] => True
  | (_, v) :: fs => v.IsJson ∧ AllJsonFields fs
end

theorem isUndefined_of_isJson {v : JsValue} (json : v.IsJson) : v.isUndefined = false := by
  cases v <;> simp_all [IsJson, isUndefined]

theorem isJson_of_mem {vs : List JsValue} (all : AllJson vs) {v : JsValue}
    (mem : v ∈ vs) : v.IsJson := by
  induction vs with
  | nil => simp at mem
  | cons w ws ih =>
      obtain ⟨first, rest⟩ := all
      rcases List.mem_cons.mp mem with rfl | mem
      · exact first
      · exact ih rest mem

theorem isJson_of_mem_fields {fs : List (String × JsValue)}
    (all : AllJsonFields fs) {k : String} {v : JsValue} (mem : (k, v) ∈ fs) :
    v.IsJson := by
  induction fs with
  | nil => simp at mem
  | cons f fs ih =>
      obtain ⟨first, rest⟩ := all
      rcases List.mem_cons.mp mem with rfl | mem
      · exact first
      · exact ih rest mem

end JsValue

/-- The runtime's `JSON.stringify` and `JSON.parse`, by what the admin console needs of them.
`parse` returns `none` where `JSON.parse` throws a `SyntaxError`. -/
structure JsonCodec where
  stringify : JsValue → String
  parse : String → Option JsValue
  parse_stringify : ∀ v, v.IsJson → parse (stringify v) = some v
  parse_empty_object : parse "{}" = some (.obj [])

end CloudreveAdmin
