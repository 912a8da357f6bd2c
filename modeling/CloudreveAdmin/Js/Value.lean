import Mathlib.Data.List.Basic
import Mathlib.Data.String.Basic

/-!
# JavaScript values

The admin console handles the server's JSON records as JavaScript objects. It reads and
writes their fields by name through spread copies (`{ ...o, [k]: v }`), tests them with
`===` and with truthiness, and converts them with `toString`, `parseInt`, `split` and the
`JSON` functions. This file models the values and the operations the components use;
`parseInt` and `JSON` have files of their own.

Objects are field lists in insertion order. Writing a field that exists replaces its value in
place and writing a new one appends it, as a JavaScript object does, so an object built by
these operations never holds a key twice. Numbers are integers: every number the modelled
code converts (sizes, speed limits, policy and group IDs) is a safe integer, and other
numbers are only carried along unchanged. `-0` and `0` are one value here; `JSON.stringify`
does not tell them apart either.
-/

namespace CloudreveAdmin

/-- A JavaScript value as the admin console sees it. -/
inductive JsValue where
  | undefined
  | null
  | bool (b : Bool)
  | num (n : Int)
  | nan
  | str (s : String)
  | arr (items : List JsValue)
  | obj (fields : List (String × JsValue))
deriving Repr, Inhabited

/-- The value of the first field named `k`, or `undefined` when there is none. -/
def lookupField (k : String) : List (String × JsValue) → JsValue
  | [] => .undefined
  | (k', v) :: rest => if k' = k then v else lookupField k rest

/-- The fields of `{ ...o, [k]: v }`: the first field named `k` gets the value `v`, or the
field is appended when there is none. -/
def setField (k : String) (v : JsValue) : List (String × JsValue) → List (String × JsValue)
  | [] => [(k, v)]
  | (k', v') :: rest => if k' = k then (k, v) :: rest else (k', v') :: setField k v rest

@[simp]
theorem lookupField_setField_self (k : String) (v : JsValue) (fields : List (String × JsValue)) :
    lookupField k (setField k v fields) = v := by
  induction fields with
  | nil => simp [setField, lookupField]
  | cons field rest ih =>
      obtain ⟨k', v'⟩ := field
      by_cases same : k' = k <;> simp [setField, lookupField, same, ih]

theorem lookupField_setField_of_ne {k k' : String} (v : JsValue)
    (fields : List (String × JsValue)) (distinct : k' ≠ k) :
    lookupField k' (setField k v fields) = lookupField k' fields := by
  induction fields with
  | nil => simp [setField, lookupField, Ne.symm distinct]
  | cons field rest ih =>
      obtain ⟨k'', v'⟩ := field
      by_cases same : k'' = k
      · subst same; simp [setField, lookupField, Ne.symm distinct]
      · simp [setField, lookupField, same, ih]

namespace JsValue

/-- The own fields a spread `{ ...v }` copies: those of an object, none for `undefined`,
`null`, booleans and numbers. -/
def fields : JsValue → List (String × JsValue)
  | .obj fields => fields
  | _ => []

/-- Property read `v[k]` of a value that is not `undefined` or `null`. -/
def get (v : JsValue) (k : String) : JsValue :=
  lookupField k v.fields

/-- The object `{ ...v, [k]: x }`. -/
def set (v : JsValue) (k : String) (x : JsValue) : JsValue :=
  .obj (setField k x v.fields)

/-- The object `{ ...v, [outer]: { ...v[outer], [k]: x } }`. -/
def setIn (v : JsValue) (outer k : String) (x : JsValue) : JsValue :=
  v.set outer ((v.get outer).set k x)

/-- Property read `v.k` that throws, as JavaScript does, on `undefined` and `null`. The error is
the `TypeError`'s `message`, which is what a `.catch` toast of `error.message` shows. -/
def read (v : JsValue) (k : String) : Except String JsValue :=
  match v with
  | .undefined => .error s!"Cannot read properties of undefined (reading '{k}')"
  | .null => .error s!"Cannot read properties of null (reading '{k}')"
  | v => .ok (v.get k)

@[simp]
theorem get_set_self (v : JsValue) (k : String) (x : JsValue) : (v.set k x).get k = x := by
  simp [get, set, fields]

@[simp]
theorem get_set_of_ne (v : JsValue) {k k' : String} (x : JsValue) (distinct : k' ≠ k) :
    (v.set k x).get k' = v.get k' := by
  simp [get, set, fields, lookupField_setField_of_ne x _ distinct]

@[simp]
theorem get_setIn_self (v : JsValue) (outer k : String) (x : JsValue) :
    (v.setIn outer k x).get outer = (v.get outer).set k x := by
  simp [setIn]

@[simp]
theorem get_setIn_of_ne (v : JsValue) {outer k' : String} (k : String) (x : JsValue)
    (distinct : k' ≠ outer) : (v.setIn outer k x).get k' = v.get k' := by
  simp [setIn, distinct]

@[simp]
theorem get_obj_fields (v : JsValue) (k : String) : (JsValue.obj v.fields).get k = v.get k := rfl

@[simp]
theorem get_obj (fields : List (String × JsValue)) (k : String) :
    (JsValue.obj fields).get k = lookupField k fields := rfl

/-- The value after `delete v[k]`: an object loses its field `k`, and a value that is not an
object has no own field to lose. -/
def delete (v : JsValue) (k : String) : JsValue :=
  match v with
  | .obj fields => .obj (fields.filter fun field => field.1 ≠ k)
  | v => v

@[simp]
theorem get_delete_of_ne (v : JsValue) {k k' : String} (distinct : k' ≠ k) :
    (v.delete k).get k' = v.get k' := by
  cases v with
  | obj fields =>
      simp only [delete, get_obj]
      induction fields with
      | nil => rfl
      | cons field rest ih =>
          simp only [ne_eq, decide_not] at ih
          by_cases gone : field.1 = k
          · simp [lookupField, List.filter_cons, gone, Ne.symm distinct, ih]
          · by_cases same : field.1 = k' <;>
              simp [lookupField, List.filter_cons, same, gone, distinct, ih]
  | _ => rfl

/-- `v === undefined`. -/
def isUndefined : JsValue → Bool
  | .undefined => true
  | _ => false

@[simp] theorem isUndefined_undefined : JsValue.undefined.isUndefined = true := rfl
@[simp] theorem isUndefined_bool (b : Bool) : (JsValue.bool b).isUndefined = false := rfl
@[simp] theorem isUndefined_num (n : Int) : (JsValue.num n).isUndefined = false := rfl
@[simp] theorem isUndefined_str (s : String) : (JsValue.str s).isUndefined = false := rfl

/-- Element read `v[i]` that throws on `undefined` and `null`; `undefined` past the end. -/
def readIndex (v : JsValue) (i : Nat) : Except String JsValue :=
  match v with
  | .undefined => .error s!"Cannot read properties of undefined (reading '{i}')"
  | .null => .error s!"Cannot read properties of null (reading '{i}')"
  | .arr items => .ok (items.getD i .undefined)
  | _ => .ok .undefined

/-- `v` is an object. -/
def isObject : JsValue → Bool
  | .obj _ => true
  | _ => false

@[simp]
theorem isObject_set (v : JsValue) (k : String) (x : JsValue) : (v.set k x).isObject := rfl

@[simp]
theorem isObject_obj (fields : List (String × JsValue)) : (JsValue.obj fields).isObject := rfl

theorem read_of_isObject {v : JsValue} (object : v.isObject) (k : String) :
    v.read k = .ok (v.get k) := by
  cases v <;> simp_all [read, isObject]

/-- Strict equality with a string literal, `v === s`. -/
def eqStr : JsValue → String → Bool
  | .str t, s => decide (t = s)
  | _, _ => false

@[simp]
theorem eqStr_str (t s : String) : (JsValue.str t).eqStr s = decide (t = s) := rfl

/-- Truthiness, as `v ? a : b` tests it. -/
def truthy : JsValue → Bool
  | .undefined | .null | .nan => false
  | .bool b => b
  | .num n => n ≠ 0
  | .str s => s ≠ ""
  | .arr _ | .obj _ => true

/-- The string a switch or a radio group stores for a boolean: `b ? "true" : "false"`. -/
def boolText (b : Bool) : JsValue :=
  .str (if b then "true" else "false")

@[simp]
theorem truthy_bool (b : Bool) : (JsValue.bool b).truthy = b := rfl

@[simp]
theorem isUndefined_boolText (b : Bool) : (boolText b).isUndefined = false := rfl

@[simp]
theorem boolText_eqStr_true (b : Bool) : (boolText b).eqStr "true" = b := by
  cases b <;> simp [boolText]

/-- `Number.prototype.toString` for an integer: its decimal digits. -/
def numberText : Int → String
  | .ofNat m => Nat.repr m
  | .negSucc m => "-" ++ Nat.repr (m + 1)

mutual
/-- The abstract operation `ToString`, as `parseInt` and string concatenation apply it. -/
def toText : JsValue → String
  | .undefined => "undefined"
  | .null => "null"
  | .bool b => if b then "true" else "false"
  | .num n => numberText n
  | .nan => "NaN"
  | .str s => s
  | .arr items => ",".intercalate (joinItems items)
  | .obj _ => "[object Object]"
/-- The items of `Array.prototype.join`, where `undefined` and `null` stand empty. -/
def joinItems : List JsValue → List String
  | [] => []
  | .undefined :: rest | .null :: rest => "" :: joinItems rest
  | item :: rest => toText item :: joinItems rest
end

/-- The method call `v.toString()`, which throws on `undefined` and `null`. -/
def callToString (v : JsValue) : Except String JsValue :=
  match v with
  | .undefined => .error "Cannot read properties of undefined (reading 'toString')"
  | .null => .error "Cannot read properties of null (reading 'toString')"
  | v => .ok (.str v.toText)

@[simp]
theorem callToString_num (n : Int) : (JsValue.num n).callToString = .ok (.str (numberText n)) :=
  rfl

end JsValue

/-- `keys.forEach((k) => { ... })` over the fields `keys` of a value: the body reads `v[k]`,
which throws on `undefined` and `null`, and `body k x` is what it does with the value `x`:
`none` when it leaves the field alone, and an exception ends the loop. -/
def forEachField (keys : List String) (body : String → JsValue → Except String (Option JsValue))
    (v : JsValue) : Except String JsValue :=
  keys.foldlM (fun o k => do
    match ← body k (← o.read k) with
    | none => pure o
    | some x => pure (o.set k x)) v

/-- A loop over distinct fields of an object whose body does not throw on them rewrites each
of them once, from its value before the loop, and leaves every other field alone. -/
theorem forEachField_get (keys : List String)
    (body : String → JsValue → Except String (Option JsValue)) {v : JsValue}
    (distinct : keys.Nodup) (object : v.isObject) (outcome : String → Option JsValue)
    (noThrow : ∀ k ∈ keys, body k (v.get k) = .ok (outcome k)) :
    ∃ w, forEachField keys body v = .ok w ∧ w.isObject ∧
      ∀ k, w.get k = if k ∈ keys then (outcome k).getD (v.get k) else v.get k := by
  induction keys generalizing v with
  | nil => exact ⟨v, rfl, object, by simp⟩
  | cons key keys ih =>
      obtain ⟨fresh, distinct⟩ := List.nodup_cons.mp distinct
      let next := match outcome key with
        | none => v
        | some x => v.set key x
      have nextObject : next.isObject := by
        cases h : outcome key <;> simp [next, h, object]
      have nextGet : ∀ k, k ≠ key → next.get k = v.get k := by
        intro k other
        cases h : outcome key <;> simp [next, h, other]
      obtain ⟨w, loop, wObject, fields⟩ := ih distinct nextObject fun k mem => by
        rw [nextGet k (by rintro rfl; exact fresh mem)]
        exact noThrow k (by simp [mem])
      refine ⟨w, ?_, wObject, fun k => ?_⟩
      · have first := noThrow key (by simp)
        simp only [forEachField, List.foldlM_cons, JsValue.read_of_isObject object, bind,
          Except.bind,
          first] at loop ⊢
        cases h : outcome key <;> simpa [h, next] using loop
      · rw [fields k]
        by_cases same : k = key
        · subst same
          cases h : outcome k <;> simp [fresh, h, next]
        · simp [same, nextGet k same]

/-- `s.split(sep)` on the characters of `s`: the pieces between the separators, one more
than there are separators, so that the empty string gives one empty piece. -/
def splitOnChar (sep : Char) : List Char → List (List Char)
  | [] => [[]]
  | c :: cs =>
      if c = sep then [] :: splitOnChar sep cs
      else match splitOnChar sep cs with
        | [] => [[c]]
        | piece :: pieces => (c :: piece) :: pieces

/-- `s.split(",")`. -/
def splitComma (s : String) : List String :=
  (splitOnChar ',' s.toList).map String.mk

/-- The method call `v.split(",")`, which throws unless `v` is a string. JavaScript names the
called expression in the last message; no modelled handler shows it. -/
def JsValue.callSplit (v : JsValue) : Except String (List String) :=
  match v with
  | .str s => .ok (splitComma s)
  | .undefined => .error "Cannot read properties of undefined (reading 'split')"
  | .null => .error "Cannot read properties of null (reading 'split')"
  | _ => .error "split is not a function"

theorem JsValue.callSplit_eq_ok {v : JsValue} {parts : List String}
    (split : v.callSplit = .ok parts) : ∃ text, v = .str text ∧ splitComma text = parts := by
  cases v <;> simp only [JsValue.callSplit, Except.ok.injEq, reduceCtorEq] at split
  exact ⟨_, rfl, split⟩

example : splitComma "jpg,png,,zip" = ["jpg", "png", "", "zip"] := by decide
example : splitComma "" = [""] := by decide

end CloudreveAdmin
