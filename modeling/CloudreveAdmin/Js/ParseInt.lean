import Mathlib.Data.Nat.Digits
import CloudreveAdmin.Js.Value

/-!
# `parseInt`

`parseInt(v)` as the ECMAScript specification defines it when no radix is given: the value
is converted with `ToString`, leading white space is skipped, one sign is read, a `0x` or
`0X` prefix switches to radix 16, and the longest prefix of digits of the radix gives the
number; with no digit at all the result is `NaN`. The components apply it to sizes, speed
limits and policy IDs on their way to the server. The result here is an exact integer, where
JavaScript returns a double that rounds above `2 ^ 53`; the modelled code parses only the safe
integers the server sends and what the administrator types.

The main fact is `parseInt_num`: `parseInt` reads back every integer that
`Number.prototype.toString` prints. Loading a group record prints its sizes and saving the
form parses them again, so this is the arithmetic half of the group round trip.
-/

namespace CloudreveAdmin

/-- `StrWhiteSpaceChar`: white space and line terminators, which `parseInt` skips. -/
def isStrWhiteSpace (c : Char) : Bool :=
  c.toNat ∈ [0x09, 0x0A, 0x0B, 0x0C, 0x0D, 0x20, 0xA0, 0x1680, 0x2000, 0x2001, 0x2002,
    0x2003, 0x2004, 0x2005, 0x2006, 0x2007, 0x2008, 0x2009, 0x200A, 0x2028, 0x2029, 0x202F,
    0x205F, 0x3000, 0xFEFF]

/-- The value of a digit character in radices up to 36. -/
def digitValue (c : Char) : Option Nat :=
  if '0' ≤ c ∧ c ≤ '9' then some (c.toNat - '0'.toNat)
  else if 'a' ≤ c ∧ c ≤ 'z' then some (c.toNat - 'a'.toNat + 10)
  else if 'A' ≤ c ∧ c ≤ 'Z' then some (c.toNat - 'A'.toNat + 10)
  else none

/-- The digit values of the longest prefix of radix-`radix` digits. -/
def digitPrefix (radix : Nat) : List Char → List Nat
  | [] => []
  | c :: cs =>
      match digitValue c with
      | some d => if d < radix then d :: digitPrefix radix cs else []
      | none => []

/-- The number a list of digits denotes, most significant first. -/
def digitsValue (radix : Nat) (ds : List Nat) : Nat :=
  ds.foldl (fun acc d => acc * radix + d) 0

/-- The sign `parseInt` reads in front of the digits. -/
def takeSign : List Char → Int × List Char
  | [] => (1, [])
  | c :: rest => if c = '-' then (-1, rest) else if c = '+' then (1, rest) else (1, c :: rest)

/-- The radix `parseInt` chooses when none is given: 16 after a `0x` or `0X` prefix. -/
def takeRadix : List Char → Nat × List Char
  | c :: x :: rest => if c = '0' ∧ (x = 'x' ∨ x = 'X') then (16, rest) else (10, c :: x :: rest)
  | rest => (10, rest)

/-- `parseInt` on the characters of a string. -/
def parseIntChars (cs : List Char) : JsValue :=
  let (sign, unsigned) := takeSign (cs.dropWhile isStrWhiteSpace)
  let (radix, body) := takeRadix unsigned
  match digitPrefix radix body with
  | [] => .nan
  | ds => .num (sign * digitsValue radix ds)

/-- `parseInt(v)`. -/
def parseInt (v : JsValue) : JsValue :=
  parseIntChars v.toText.toList

example : parseInt (.str "  -0x1A!") = .num (-26) := rfl
example : parseInt (.str "12kb") = .num 12 := rfl
/-- `parseInt(undefined)` reads the text `"undefined"`, which has no digit. -/
@[simp]
theorem parseInt_undefined : parseInt .undefined = .nan := rfl

section RoundTrip

theorem digitValue_digitChar : ∀ d, d < 10 → digitValue (Nat.digitChar d) = some d := by
  decide

theorem digitChar_ne_of_lt : ∀ d, d < 10 →
    Nat.digitChar d ≠ '-' ∧ Nat.digitChar d ≠ '+' ∧ Nat.digitChar d ≠ 'x' ∧
      Nat.digitChar d ≠ 'X' ∧ isStrWhiteSpace (Nat.digitChar d) = false := by
  decide

theorem digitPrefix_map_digitChar_append (ds : List Nat) (small : ∀ d ∈ ds, d < 10)
    (rest : List Char) :
    digitPrefix 10 (ds.map Nat.digitChar ++ rest) = ds ++ digitPrefix 10 rest := by
  induction ds with
  | nil => rfl
  | cons d ds ih =>
      have dSmall := small d (by simp)
      simp [digitPrefix, digitValue_digitChar d dSmall, dSmall,
        ih fun e mem => small e (by simp [mem])]

theorem digitPrefix_map_digitChar (ds : List Nat) (small : ∀ d ∈ ds, d < 10) :
    digitPrefix 10 (ds.map Nat.digitChar) = ds := by
  simpa [digitPrefix] using digitPrefix_map_digitChar_append ds small []

/-- The core of `Nat.repr`: the digits it writes in front of `acc` denote `n`. -/
theorem toDigitsCore_ten (fuel n : Nat) (acc : List Char) (enough : n < fuel) :
    ∃ ds : List Nat, Nat.toDigitsCore 10 fuel n acc = ds.map Nat.digitChar ++ acc ∧
      ds ≠ [] ∧ (∀ d ∈ ds, d < 10) ∧ digitsValue 10 ds = n := by
  induction fuel generalizing n acc with
  | zero => omega
  | succ fuel ih =>
      by_cases last : n / 10 = 0
      · refine ⟨[n % 10], ?_, by simp, by simp; omega, ?_⟩
        · simp [Nat.toDigitsCore, last]
        · simp [digitsValue]; omega
      · obtain ⟨ds, unfolds, nonempty, small, value⟩ :=
          ih (n / 10) (Nat.digitChar (n % 10) :: acc) (by omega)
        refine ⟨ds ++ [n % 10], ?_, by simp, ?_, ?_⟩
        · simp [Nat.toDigitsCore, last, unfolds]
        · simp only [List.mem_append, List.mem_singleton]
          rintro d (mem | rfl)
          · exact small d mem
          · omega
        · simp only [digitsValue, List.foldl_append] at value ⊢
          simp [value]; omega

/-- `Nat.repr` writes the decimal digits of its argument. -/
theorem repr_toList (m : Nat) :
    ∃ ds : List Nat, ds ≠ [] ∧ (∀ d ∈ ds, d < 10) ∧ digitsValue 10 ds = m ∧
      (Nat.repr m).toList = ds.map Nat.digitChar := by
  obtain ⟨ds, digits, nonempty, small, value⟩ := toDigitsCore_ten (m + 1) m [] (by omega)
  exact ⟨ds, nonempty, small, value, by simpa [Nat.repr, Nat.toDigits] using digits⟩

theorem takeRadix_digits (ds : List Nat) (small : ∀ d ∈ ds, d < 10) :
    takeRadix (ds.map Nat.digitChar) = (10, ds.map Nat.digitChar) := by
  match ds, small with
  | [], _ => rfl
  | [_], _ => rfl
  | _ :: e :: _, small =>
      obtain ⟨-, -, notX, notBigX, -⟩ := digitChar_ne_of_lt e (small e (by simp))
      simp [takeRadix, notX, notBigX]

/-- What `parseInt` makes of a decimal numeral once its sign is read. -/
theorem parseIntChars_of_takeSign {cs : List Char} {sign : Int} (ds : List Nat)
    (nonempty : ds ≠ []) (small : ∀ d ∈ ds, d < 10)
    (signed : takeSign (cs.dropWhile isStrWhiteSpace) = (sign, ds.map Nat.digitChar)) :
    parseIntChars cs = .num (sign * digitsValue 10 ds) := by
  obtain ⟨d, rest, rfl⟩ := List.exists_cons_of_ne_nil nonempty
  unfold parseIntChars
  rw [signed]
  simp only [takeRadix_digits _ small, digitPrefix_map_digitChar _ small]

/-- `parseInt` reads back every integer `Number.prototype.toString` prints. -/
@[simp]
theorem parseInt_num (n : Int) : parseInt (.num n) = .num n := by
  obtain ⟨ds, nonempty, small, value, text⟩ := repr_toList n.natAbs
  obtain ⟨d, rest, rfl⟩ := List.exists_cons_of_ne_nil nonempty
  obtain ⟨notMinus, notPlus, -, -, notSpace⟩ := digitChar_ne_of_lt d (small d (by simp))
  cases n with
  | ofNat m =>
      have signed : takeSign ((Nat.repr m).toList.dropWhile isStrWhiteSpace) =
          (1, (d :: rest).map Nat.digitChar) := by
        rw [show (Nat.repr m).toList = _ from text, List.map_cons,
          List.dropWhile_cons_of_neg (by simp [notSpace])]
        simp [takeSign, notMinus, notPlus]
      rw [show parseInt (.num (.ofNat m)) = parseIntChars (Nat.repr m).toList from rfl,
        parseIntChars_of_takeSign _ nonempty small signed, value]
      simp
  | negSucc m =>
      have signed : takeSign (('-' :: (Nat.repr (m + 1)).toList).dropWhile isStrWhiteSpace) =
          (-1, (d :: rest).map Nat.digitChar) := by
        rw [List.dropWhile_cons_of_neg (by decide), show (Nat.repr (m + 1)).toList = _ from text]
        simp [takeSign]
      rw [show parseInt (.num (.negSucc m)) = parseIntChars ('-' :: (Nat.repr (m + 1)).toList)
        from rfl, parseIntChars_of_takeSign _ nonempty small signed, value, Int.natAbs_negSucc,
        Int.negSucc_eq]
      simp

/-- `parseInt` reads back the text `toString` gives an integer. -/
@[simp]
theorem parseInt_str_numberText (n : Int) : parseInt (.str (JsValue.numberText n)) = .num n :=
  parseInt_num n

end RoundTrip

end CloudreveAdmin
