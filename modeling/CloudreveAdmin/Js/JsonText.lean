import CloudreveAdmin.Js.ParseInt
import CloudreveAdmin.Js.Json

/-!
# A JSON printer and parser

`textCodec` is a `JsonCodec` built from a printer and a parser on character lists, so that
the group round trip can be run on concrete records. The printer escapes `"` and `\` in
strings and writes integers in decimal, as `JSON.stringify` does; the parser reads that text
back. It runs on fuel, the length of its input, which bounds both the nesting depth and the
number of items of every array and object in the input. `parseValue_render` is the round
trip, by induction on the fuel.
-/

namespace CloudreveAdmin

namespace JsonText

/-- The characters of a string after its opening quote, with `"` and `\` escaped. -/
def escape : List Char → List Char
  | [] => ['"']
  | c :: cs => (if c = '"' ∨ c = '\\' then ['\\', c] else [c]) ++ escape cs

mutual
/-- The JSON text of a value. `undefined` and `NaN` print as `null`. The braces are written
`'\x7b'` and `'\x7d'`. -/
def render : JsValue → List Char
  | .null | .undefined | .nan => "null".toList
  | .bool b => (if b then "true" else "false").toList
  | .num n => (JsValue.numberText n).toList
  | .str s => '"' :: escape s.toList
  | .arr [] => ['[', ']']
  | .arr (v :: vs) => '[' :: render v ++ renderItems vs
  | .obj [] => ['\x7b', '\x7d']
  | .obj ((k, v) :: fs) => '\x7b' :: '"' :: escape k.toList ++ ':' :: render v ++ renderFields fs
/-- The items of an array after its first one, and the closing bracket. -/
def renderItems : List JsValue → List Char
  | [] => [']']
  | v :: vs => ',' :: render v ++ renderItems vs
/-- The fields of an object after its first one, and the closing brace. -/
def renderFields : List (String × JsValue) → List Char
  | [] => ['\x7d']
  | (k, v) :: fs => ',' :: '"' :: escape k.toList ++ ':' :: render v ++ renderFields fs
end

/-- What follows `word` at the front of `cs`. -/
def expectWord : List Char → List Char → Option (List Char)
  | [], cs => some cs
  | w :: ws, c :: cs => if w = c then expectWord ws cs else none
  | _ :: _, [] => none

/-- The characters of a string up to its closing quote, with the escapes undone; `escaped`
when the character before was a backslash that escapes. -/
def parseString : Bool → List Char → Option (List Char × List Char)
  | _, [] => none
  | true, c :: cs => (parseString false cs).map fun (s, r) => (c :: s, r)
  | false, c :: cs =>
      if c = '"' then some ([], cs)
      else if c = '\\' then parseString true cs
      else (parseString false cs).map fun (s, r) => (c :: s, r)

/-- The number the decimal digits at the front of `cs` denote. -/
def parseNat (cs : List Char) : Option (Nat × List Char) :=
  match digitPrefix 10 cs with
  | [] => none
  | ds => some (digitsValue 10 ds, cs.drop ds.length)

/-- The items of an array after its first one, each read by `read`. -/
def parseItems (read : List Char → Option (JsValue × List Char)) :
    Nat → List Char → Option (List JsValue × List Char)
  | 0, _ => none
  | _ + 1, [] => none
  | fuel + 1, c :: cs =>
      if c = ']' then some ([], cs)
      else if c = ',' then do
        let (v, r) ← read cs
        let (vs, r) ← parseItems read fuel r
        pure (v :: vs, r)
      else none

/-- One field `"k":v` of an object, its value read by `read`. -/
def parseField (read : List Char → Option (JsValue × List Char)) (cs : List Char) :
    Option ((String × JsValue) × List Char) := do
  let r ← expectWord ['"'] cs
  let (k, r) ← parseString false r
  let r ← expectWord [':'] r
  let (v, r) ← read r
  pure ((String.mk k, v), r)

/-- The fields of an object after its first one. -/
def parseFields (read : List Char → Option (JsValue × List Char)) :
    Nat → List Char → Option (List (String × JsValue) × List Char)
  | 0, _ => none
  | _ + 1, [] => none
  | fuel + 1, c :: cs =>
      if c = '\x7d' then some ([], cs)
      else if c = ',' then do
        let (f, r) ← parseField read cs
        let (fs, r) ← parseFields read fuel r
        pure (f :: fs, r)
      else none

/-- The value at the front of `cs`, and what follows it. -/
def parseValue : Nat → List Char → Option (JsValue × List Char)
  | 0, _ => none
  | _ + 1, [] => none
  | fuel + 1, c :: cs =>
      if c = '"' then (parseString false cs).map fun (s, r) => (.str (String.mk s), r)
      else if c = '[' then
        if cs.head? = some ']' then some (.arr [], cs.tail)
        else do
          let (v, r) ← parseValue fuel cs
          let (vs, r) ← parseItems (parseValue fuel) fuel r
          pure (.arr (v :: vs), r)
      else if c = '\x7b' then
        if cs.head? = some '\x7d' then some (.obj [], cs.tail)
        else do
          let (f, r) ← parseField (parseValue fuel) cs
          let (fs, r) ← parseFields (parseValue fuel) fuel r
          pure (.obj (f :: fs), r)
      else if c = 'n' then (expectWord "ull".toList cs).map (.null, ·)
      else if c = 't' then (expectWord "rue".toList cs).map (.bool true, ·)
      else if c = 'f' then (expectWord "alse".toList cs).map (.bool false, ·)
      else if c = '-' then (parseNat cs).map fun (n, r) => (.num (-n), r)
      else (parseNat (c :: cs)).map fun (n, r) => (.num n, r)

/-- The whole text as one value. -/
def parse (s : String) : Option JsValue :=
  match parseValue (s.length + 1) s.toList with
  | some (v, []) => some v
  | _ => none

section RoundTrip

theorem parseString_escape (cs rest : List Char) :
    parseString false (escape cs ++ rest) = some (cs, rest) := by
  induction cs with
  | nil => simp [escape, parseString]
  | cons c cs ih =>
      by_cases special : c = '"' ∨ c = '\\'
      · rcases special with rfl | rfl <;> simp [escape, parseString, ih]
      · simp only [not_or] at special
        simp [escape, parseString, special, ih]

theorem parseNat_digits {ds : List Nat} (nonempty : ds ≠ []) (small : ∀ d ∈ ds, d < 10)
    {rest : List Char} (stop : digitPrefix 10 rest = []) :
    parseNat (ds.map Nat.digitChar ++ rest) = some (digitsValue 10 ds, rest) := by
  obtain ⟨d, ds, rfl⟩ := List.exists_cons_of_ne_nil nonempty
  rw [parseNat, digitPrefix_map_digitChar_append _ small, stop, List.append_nil]
  simp

/-- A decimal digit starts none of the other kinds of value. -/
theorem digitChar_starts_number : ∀ d, d < 10 →
    Nat.digitChar d ≠ '"' ∧ Nat.digitChar d ≠ '[' ∧ Nat.digitChar d ≠ '\x7b' ∧
      Nat.digitChar d ≠ 'n' ∧ Nat.digitChar d ≠ 't' ∧ Nat.digitChar d ≠ 'f' ∧
      Nat.digitChar d ≠ '-' ∧ Nat.digitChar d ≠ ']' := by
  decide

theorem parseValue_num (fuel : Nat) (n : Int) {rest : List Char}
    (stop : digitPrefix 10 rest = []) :
    parseValue (fuel + 1) (render (.num n) ++ rest) = some (.num n, rest) := by
  obtain ⟨ds, nonempty, small, value, text⟩ := repr_toList n.natAbs
  have digits := parseNat_digits nonempty small stop
  obtain ⟨d, ds, rfl⟩ := List.exists_cons_of_ne_nil nonempty
  obtain ⟨notQuote, notBracket, notBrace, notN, notT, notF, notMinus, -⟩ :=
    digitChar_starts_number d (small d (by simp))
  simp only [List.map_cons, List.cons_append] at text digits
  cases n with
  | ofNat m =>
      have shown : render (.num (.ofNat m)) = (Nat.repr m).toList := rfl
      rw [shown, show (Nat.repr m).toList = _ from text]
      simp [parseValue, notQuote, notBracket, notBrace, notN, notT, notF, notMinus, digits, value]
  | negSucc m =>
      rw [Int.natAbs_negSucc] at value text
      have shown : render (.num (.negSucc m)) = '-' :: (Nat.repr (m + 1)).toList := rfl
      rw [shown, show (Nat.repr (m + 1)).toList = _ from text]
      simp [parseValue, digits, value, Int.negSucc_eq]

/-- The printer follows a value by a comma, a closing bracket or brace, or nothing. -/
theorem digitPrefix_cons_of_not_digit (c : Char) (notDigit : digitValue c = none)
    (cs : List Char) : digitPrefix 10 (c :: cs) = [] := by
  simp [digitPrefix, notDigit]

theorem digitPrefix_renderItems (vs : List JsValue) (rest : List Char) :
    digitPrefix 10 (renderItems vs ++ rest) = [] := by
  cases vs
  · exact digitPrefix_cons_of_not_digit ']' rfl _
  · exact digitPrefix_cons_of_not_digit ',' rfl _

theorem digitPrefix_renderFields (fs : List (String × JsValue)) (rest : List Char) :
    digitPrefix 10 (renderFields fs ++ rest) = [] := by
  cases fs with
  | nil => exact digitPrefix_cons_of_not_digit '\x7d' rfl _
  | cons f fs => exact digitPrefix_cons_of_not_digit ',' rfl _

theorem length_lt_renderItems (vs : List JsValue) : vs.length < (renderItems vs).length := by
  induction vs with
  | nil => simp [renderItems]
  | cons v vs ih => simp [renderItems]; omega

theorem render_length_lt_renderItems {v : JsValue} {vs : List JsValue} (mem : v ∈ vs) :
    (render v).length < (renderItems vs).length := by
  induction vs with
  | nil => simp at mem
  | cons w ws ih =>
      simp only [renderItems, List.length_cons, List.length_append]
      rcases List.mem_cons.mp mem with rfl | mem
      · omega
      · have := ih mem; omega

theorem length_lt_renderFields (fs : List (String × JsValue)) :
    fs.length < (renderFields fs).length := by
  induction fs with
  | nil => simp [renderFields]
  | cons f fs ih => simp [renderFields]; omega

theorem render_length_lt_renderFields {k : String} {v : JsValue} {fs : List (String × JsValue)}
    (mem : (k, v) ∈ fs) : (render v).length < (renderFields fs).length := by
  induction fs with
  | nil => simp at mem
  | cons f fs ih =>
      simp only [renderFields, List.length_cons, List.length_append]
      rcases List.mem_cons.mp mem with rfl | mem
      · dsimp only; omega
      · have := ih mem; omega

theorem parseItems_renderItems (read : List Char → Option (JsValue × List Char))
    (vs : List JsValue)
    (reads : ∀ v ∈ vs, ∀ rest, digitPrefix 10 rest = [] → read (render v ++ rest) = some (v, rest))
    (fuel : Nat) (enough : vs.length < fuel) (rest : List Char) :
    parseItems read fuel (renderItems vs ++ rest) = some (vs, rest) := by
  obtain ⟨fuel, rfl⟩ : ∃ f, fuel = f + 1 := ⟨fuel - 1, by omega⟩
  induction vs generalizing fuel with
  | nil => simp [renderItems, parseItems]
  | cons v vs ih =>
      have first := reads v (by simp) _ (digitPrefix_renderItems vs rest)
      have others := ih (fun w mem => reads w (by simp [mem])) (fuel - 1)
        (by simp at enough; omega)
      rw [show fuel - 1 + 1 = fuel by simp at enough; omega] at others
      simp [renderItems, parseItems, first, others]

theorem parseField_render (read : List Char → Option (JsValue × List Char)) (k : String)
    (v : JsValue) {rest : List Char} (reads : read (render v ++ rest) = some (v, rest)) :
    parseField read ('"' :: escape k.toList ++ ':' :: render v ++ rest) = some ((k, v), rest) := by
  simp [parseField, expectWord, parseString_escape, reads]

theorem parseFields_renderFields (read : List Char → Option (JsValue × List Char))
    (fs : List (String × JsValue))
    (reads : ∀ k v, (k, v) ∈ fs → ∀ rest, digitPrefix 10 rest = [] →
      read (render v ++ rest) = some (v, rest))
    (fuel : Nat) (enough : fs.length < fuel) (rest : List Char) :
    parseFields read fuel (renderFields fs ++ rest) = some (fs, rest) := by
  obtain ⟨fuel, rfl⟩ : ∃ f, fuel = f + 1 := ⟨fuel - 1, by omega⟩
  induction fs generalizing fuel with
  | nil => simp [renderFields, parseFields]
  | cons f fs ih =>
      obtain ⟨k, v⟩ := f
      have first := parseField_render read k v
        (reads k v (by simp) _ (digitPrefix_renderFields fs rest))
      have others := ih (fun k w mem => reads k w (by simp [mem])) (fuel - 1)
        (by simp at enough; omega)
      rw [show fuel - 1 + 1 = fuel by simp at enough; omega] at others
      simp at first
      simp [renderFields, parseFields, first, others]

/-- No value's text is empty or starts with a closing bracket, which would end an array. -/
theorem render_cons (v : JsValue) : ∃ c cs, render v = c :: cs ∧ c ≠ ']' := by
  cases v with
  | bool b => cases b <;> simp [render]
  | num n =>
      cases n with
      | ofNat m =>
          obtain ⟨ds, nonempty, small, -, text⟩ := repr_toList m
          obtain ⟨d, ds, rfl⟩ := List.exists_cons_of_ne_nil nonempty
          exact ⟨_, _, text, (digitChar_starts_number d (small d (by simp))).2.2.2.2.2.2.2⟩
      | negSucc m => exact ⟨_, _, rfl, by decide⟩
  | arr items => cases items <;> simp [render]
  | obj fields => cases fields <;> simp [render]
  | _ => simp [render]

/-- Parsing the text of a JSON value, followed by anything that does not go on with a digit,
reads the value back. -/
theorem parseValue_render (fuel : Nat) : ∀ v : JsValue, v.IsJson → ∀ rest,
    (render v).length < fuel → digitPrefix 10 rest = [] →
    parseValue fuel (render v ++ rest) = some (v, rest) := by
  induction fuel with
  | zero => intro _ _ _ short; omega
  | succ fuel ih =>
      intro v json rest short stop
      cases v with
      | undefined | nan => exact json.elim
      | null => simp [render, parseValue, expectWord]
      | bool b => cases b <;> simp [render, parseValue, expectWord]
      | num n => exact parseValue_num fuel n stop
      | str s => simp [render, parseValue, parseString_escape]
      | arr items =>
          cases items with
          | nil => simp [render, parseValue]
          | cons v vs =>
              obtain ⟨jsonV, jsonVs⟩ := json
              simp only [render, List.length_cons, List.length_append] at short
              have most := length_lt_renderItems vs
              have first := ih v jsonV (renderItems vs ++ rest) (by omega)
                (digitPrefix_renderItems vs rest)
              have others := parseItems_renderItems (parseValue fuel) vs
                (fun w mem rest stop => ih w (JsValue.isJson_of_mem jsonVs mem) rest
                  (by have := render_length_lt_renderItems mem; omega) stop) fuel (by omega) rest
              obtain ⟨c, cs, shown, notClose⟩ := render_cons v
              rw [shown, List.cons_append] at first
              simp [render, parseValue, shown, notClose, first, others]
      | obj fields =>
          cases fields with
          | nil => simp [render, parseValue]
          | cons f fs =>
              obtain ⟨k, v⟩ := f
              obtain ⟨-, jsonV, jsonFs⟩ := json
              simp only [render, List.length_cons, List.length_append] at short
              have most := length_lt_renderFields fs
              have first := parseField_render (parseValue fuel) k v
                (ih v jsonV (renderFields fs ++ rest) (by omega) (digitPrefix_renderFields fs rest))
              have others := parseFields_renderFields (parseValue fuel) fs
                (fun k w mem rest stop => ih w (JsValue.isJson_of_mem_fields jsonFs mem) rest
                  (by have := render_length_lt_renderFields mem; omega) stop) fuel (by omega) rest
              simp at first
              simp [render, parseValue, first, others]

theorem parse_render {v : JsValue} (json : v.IsJson) : parse (String.mk (render v)) = some v := by
  have read := parseValue_render ((render v).length + 1) v json [] (by omega) rfl
  rw [List.append_nil] at read
  simp [parse, read]

end RoundTrip

/-- `JSON.stringify` and `JSON.parse` as `render` and `parse`. -/
def textCodec : JsonCodec where
  stringify v := String.mk (render v)
  parse := parse
  parse_stringify _ json := parse_render json
  parse_empty_object := rfl

end JsonText

end CloudreveAdmin
