import Mathlib.Data.List.TakeWhile
import ServerUtils.Foundation.Search

/-!
# Byte strings and the standard-library calls of the parser

`std::string` is a list of bytes.  The request parser uses three library
calls whose failure modes matter: `substr`, which throws when the position is
past the end, `stoi`, which skips leading white space, accepts a sign, stops
at the first non-digit and throws on an empty or over-large numeral, and the
comparison of a `size_t` with an `int`, which converts the `int` first.
-/

namespace ServerUtils.Parser.StdString

open ServerUtils.Foundation.Search

/-- The content of a `std::string`. -/
abbrev Bytes := List UInt8

/-- The bytes of an ASCII literal of the source. -/
def str (literal : String) : Bytes :=
  literal.toList.map fun character => UInt8.ofNat character.toNat

/-- The exceptions which the modelled functions throw, with their texts. -/
inductive StdException where
  | invalidArgument (what : String)
  | runtimeError (what : String)
  | outOfRange (what : String)
deriving DecidableEq, Repr

/-- A sequence of two fallible steps succeeds when both do. -/
theorem bind_eq_ok_iff
    {Error First Second : Type} {first : Except Error First}
    {next : First → Except Error Second} {result : Second} :
    (first >>= next) = .ok result ↔
      ∃ middle, first = .ok middle ∧ next middle = .ok result := by
  cases first <;> simp [bind, Except.bind]

/-- The `npos` argument of `substr`: everything up to the end. -/
def npos : Option Nat := none

/-- `text.substr(position, count)`. -/
def substr (text : Bytes) (position : Nat) (count : Option Nat) :
    Except StdException Bytes :=
  if text.length < position then
    .error (.outOfRange "basic_string::substr")
  else
    match count with
    | none => .ok (text.drop position)
    | some count => .ok ((text.drop position).take count)

@[simp]
theorem substr_before (before after : Bytes) :
    substr (before ++ after) 0 (some before.length) = .ok before := by
  simp [substr]

@[simp]
theorem substr_after (before after : Bytes) :
    substr (before ++ after) before.length npos = .ok after := by
  simp [substr, npos]

/-- A position past the end is an error, whatever the count. -/
theorem substr_past_end
    {text : Bytes} {position : Nat} (past : text.length < position)
    (count : Option Nat) :
    substr text position count =
      .error (.outOfRange "basic_string::substr") := by
  simp [substr, past]

theorem length_of_substr_npos
    {text rest : Bytes} {position : Nat}
    (cut : substr text position npos = .ok rest) :
    position ≤ text.length ∧ rest.length = text.length - position := by
  by_cases past : text.length < position
  · rw [substr_past_end past] at cut
    cases cut
  · simp only [substr, past, if_false, npos, Except.ok.injEq] at cut
    subst cut
    exact ⟨Nat.le_of_not_lt past, List.length_drop⟩

/-! ## Numerals -/

/-- `isdigit` in the C locale. -/
def isdigit (byte : UInt8) : Bool :=
  48 ≤ byte && byte ≤ 57

/-- `isspace` in the C locale: space and the bytes from tab to CR. -/
def isspace (byte : UInt8) : Bool :=
  byte == 32 || (9 ≤ byte && byte ≤ 13)

/-- The number written by a run of digits. -/
def digitsValue (digits : Bytes) : Nat :=
  digits.foldl (fun value digit => 10 * value + (digit.toNat - 48)) 0

/-- A plain decimal numeral: digits only, and at least one. -/
def IsNumeral (text : Bytes) : Prop :=
  text ≠ [] ∧ ∀ byte ∈ text, isdigit byte = true

instance (text : Bytes) : Decidable (IsNumeral text) :=
  inferInstanceAs (Decidable (_ ∧ _))

/-- The decimal numeral of a number. -/
def numeral (value : Nat) : Bytes :=
  (Nat.toDigits 10 value).map fun character =>
    UInt8.ofNat character.toNat

def intMax : Int := 2147483647
def intMin : Int := -2147483648

/-- The conversion of the digits found after an optional sign. -/
def stoiDigits (sign : Int) (digits : Bytes) : Except StdException Int :=
  if digits = [] then .error (.invalidArgument "stoi")
  else if sign * digitsValue digits < intMin ∨
      intMax < sign * digitsValue digits then
    .error (.outOfRange "stoi")
  else .ok (sign * digitsValue digits)

/-- `std::stoi(text)`. -/
def stoi (text : Bytes) : Except StdException Int :=
  let text := text.dropWhile isspace
  if text.head? = some 45 then -- '-'
    stoiDigits (-1) (text.tail.takeWhile isdigit)
  else if text.head? = some 43 then -- '+'
    stoiDigits 1 (text.tail.takeWhile isdigit)
  else
    stoiDigits 1 (text.takeWhile isdigit)

/-- The conversion of an `int` to `size_t` in a mixed comparison. -/
def toSizeT (value : Int) : Nat :=
  (value % 18446744073709551616).toNat

theorem toSizeT_natCast
    {value : Nat} (bounded : (value : Int) ≤ intMax) :
    toSizeT value = value := by
  simp only [intMax] at bounded
  simp only [toSizeT]
  omega

theorem not_isspace_of_isdigit
    {byte : UInt8} (digit : isdigit byte = true) :
    isspace byte = false := by
  simp only [isdigit, Bool.and_eq_true, decide_eq_true_eq,
    UInt8.le_iff_toNat_le] at digit
  simp only [isspace, Bool.or_eq_false_iff, beq_eq_false_iff_ne,
    Bool.and_eq_false_iff, decide_eq_false_iff_not, ne_eq,
    ← UInt8.toNat_inj, UInt8.le_iff_toNat_le]
  simp only [UInt8.reduceToNat] at digit ⊢
  omega

/-- On a plain numeral `stoi` reads the whole text as an unsigned number. -/
theorem stoi_of_isNumeral
    {text : Bytes} (plain : IsNumeral text) :
    stoi text =
      if intMax < (digitsValue text : Int) then
        .error (.outOfRange "stoi")
      else .ok (digitsValue text) := by
  rcases plain with ⟨nonempty, digits⟩
  cases text with
  | nil => exact absurd rfl nonempty
  | cons first rest =>
      have firstDigit := digits first List.mem_cons_self
      have kept : (first :: rest).dropWhile isspace = first :: rest := by
        rw [List.dropWhile_cons, not_isspace_of_isdigit firstDigit]
        simp
      have whole :
          (first :: rest).takeWhile isdigit = first :: rest :=
        List.takeWhile_eq_self_iff.mpr digits
      have notMinus : first ≠ 45 := by
        rintro rfl
        exact absurd firstDigit (by decide)
      have notPlus : first ≠ 43 := by
        rintro rfl
        exact absurd firstDigit (by decide)
      have notLow : ¬ ((digitsValue (first :: rest) : Int) < intMin) := by
        simp only [intMin]
        omega
      simp only [stoi, kept, List.head?_cons, Option.some.injEq, notMinus,
        notPlus, if_false, whole, stoiDigits, reduceCtorEq, Int.one_mul, notLow,
        false_or]

/-- The factor of an optional sign. -/
def signValue (sign : Bytes) : Int :=
  if sign = str "-" then -1 else 1

/--
A text that starts, after white space and an optional sign, with at least one
digit, and whose digits up to the first other byte write an `int`.
-/
structure StartsWithInt
    (text spaces sign digits rest : Bytes) : Prop where
  glue : text = spaces ++ (sign ++ (digits ++ rest))
  spaces : ∀ byte ∈ spaces, isspace byte = true
  isSign : sign = [] ∨ sign = str "+" ∨ sign = str "-"
  isNumeral : IsNumeral digits
  ended : ∀ byte, rest.head? = some byte → isdigit byte = false
  lower : intMin ≤ signValue sign * digitsValue digits
  upper : signValue sign * digitsValue digits ≤ intMax

/-- `stoi` can read the text. -/
def ReadsAsInt (text : Bytes) : Prop :=
  ∃ spaces sign digits rest, StartsWithInt text spaces sign digits rest

theorem stoiDigits_eq_ok_iff
    {sign value : Int} {digits : Bytes} :
    stoiDigits sign digits = .ok value ↔
      digits ≠ [] ∧ intMin ≤ sign * digitsValue digits ∧
        sign * digitsValue digits ≤ intMax ∧
          value = sign * digitsValue digits := by
  rw [stoiDigits]
  split_ifs with empty range
  · simp [empty]
  · rcases range with low | high
    · simp [Int.not_le.mpr low]
    · simp [Int.not_le.mpr high]
  · simp only [not_or, Int.not_lt] at range
    simp [empty, range.1, range.2, eq_comm]

/-- `stoi` fails with exceptions of its own only. -/
theorem stoi_eq_error
    {text : Bytes} {exception : StdException}
    (failed : stoi text = .error exception) :
    exception = .invalidArgument "stoi" ∨
      exception = .outOfRange "stoi" := by
  have digits : ∀ sign digits, stoiDigits sign digits = .error exception →
      exception = .invalidArgument "stoi" ∨
        exception = .outOfRange "stoi" := by
    intro sign digits failed
    rw [stoiDigits] at failed
    split_ifs at failed <;> cases failed <;> simp
  simp only [stoi] at failed
  split_ifs at failed
  · exact digits _ _ failed
  · exact digits _ _ failed
  · exact digits _ _ failed

/-- What `stoi` reads from a text with the given parts. -/
theorem stoi_of_startsWithInt
    {text spaces sign digits rest : Bytes}
    (parts : StartsWithInt text spaces sign digits rest) :
    stoi text = .ok (signValue sign * digitsValue digits) := by
  have converted : stoiDigits (signValue sign) digits =
      .ok (signValue sign * digitsValue digits) :=
    stoiDigits_eq_ok_iff.mpr
      ⟨parts.isNumeral.1, parts.lower, parts.upper, rfl⟩
  have whole := takeWhile_append_stop parts.isNumeral.2 parts.ended
  rw [parts.glue, stoi, List.dropWhile_append_of_pos parts.spaces]
  rcases parts.isSign with rfl | rfl | rfl
  · -- without a sign the first byte is a digit
    rcases List.exists_cons_of_ne_nil parts.isNumeral.1 with
      ⟨first, others, rfl⟩
    have digit := parts.isNumeral.2 first List.mem_cons_self
    have notMinus : first ≠ 45 := by
      rintro rfl
      exact absurd digit (by decide)
    have notPlus : first ≠ 43 := by
      rintro rfl
      exact absurd digit (by decide)
    have kept : (first :: (others ++ rest)).dropWhile isspace =
        first :: (others ++ rest) := by
      simp [not_isspace_of_isdigit digit]
    rw [List.cons_append] at whole
    simp only [List.nil_append, List.cons_append, kept, List.head?_cons,
      Option.some.injEq, notMinus, notPlus, if_false, whole]
    exact converted
  · have kept : (str "+" ++ (digits ++ rest)).dropWhile isspace =
        43 :: (digits ++ rest) := by rfl
    simp only [kept, List.head?_cons, Option.some.injEq, List.tail_cons,
      whole]
    exact converted
  · have kept : (str "-" ++ (digits ++ rest)).dropWhile isspace =
        45 :: (digits ++ rest) := by rfl
    simp only [kept, List.head?_cons, List.tail_cons, whole, if_true]
    exact converted

theorem readsAsInt_of_stoiDigits
    {text tail : Bytes} {value : Int} (sign : Bytes)
    (glue : text.dropWhile isspace = sign ++ tail)
    (isSign : sign = [] ∨ sign = str "+" ∨ sign = str "-")
    (read : stoiDigits (signValue sign) (tail.takeWhile isdigit) =
      .ok value) :
    ReadsAsInt text := by
  rcases stoiDigits_eq_ok_iff.mp read with ⟨filled, lower, upper, -⟩
  refine ⟨text.takeWhile isspace, sign, tail.takeWhile isdigit,
    tail.dropWhile isdigit, ?_⟩
  exact
    { glue := by
        rw [List.takeWhile_append_dropWhile, ← glue,
          List.takeWhile_append_dropWhile]
      spaces := fun byte member => List.mem_takeWhile_imp member
      isSign := isSign
      isNumeral := ⟨filled, fun byte member => List.mem_takeWhile_imp member⟩
      ended := dropWhile_head_stop tail
      lower := lower
      upper := upper }

/-- `stoi` succeeds exactly on the texts that start with an `int`. -/
theorem stoi_succeeds_iff (text : Bytes) :
    (∃ value, stoi text = .ok value) ↔ ReadsAsInt text := by
  constructor
  · rintro ⟨value, read⟩
    simp only [stoi] at read
    split_ifs at read with minus plus
    · rcases List.head?_eq_some_iff.mp minus with ⟨tail, equal⟩
      rw [equal] at read
      exact readsAsInt_of_stoiDigits (str "-") equal
        (Or.inr (Or.inr rfl)) read
    · rcases List.head?_eq_some_iff.mp plus with ⟨tail, equal⟩
      rw [equal] at read
      exact readsAsInt_of_stoiDigits (str "+") equal
        (Or.inr (Or.inl rfl)) read
    · exact readsAsInt_of_stoiDigits [] rfl (Or.inl rfl) read
  · rintro ⟨spaces, sign, digits, rest, parts⟩
    exact ⟨_, stoi_of_startsWithInt parts⟩

theorem toNat_digit
    {character : Char} (digit : character.isDigit = true) :
    (UInt8.ofNat character.toNat).toNat = character.toNat ∧
      48 ≤ character.toNat ∧ character.toNat ≤ 57 := by
  simp only [Char.isDigit, Bool.and_eq_true, decide_eq_true_eq,
    UInt32.le_iff_toNat_le, ge_iff_le] at digit
  have lower : 48 ≤ character.toNat := digit.1
  have upper : character.toNat ≤ 57 := digit.2
  refine ⟨?_, lower, upper⟩
  rw [UInt8.toNat_ofNat']
  omega

theorem isNumeral_numeral (value : Nat) : IsNumeral (numeral value) := by
  refine ⟨by simp [numeral, Nat.toDigits_ne_nil], fun byte member => ?_⟩
  rcases List.mem_map.mp member with ⟨character, charMember, rfl⟩
  rcases toNat_digit
    (Nat.isDigit_of_mem_toDigits (by decide) (by decide) charMember) with
    ⟨same, lower, upper⟩
  simp only [isdigit, Bool.and_eq_true, decide_eq_true_eq,
    UInt8.le_iff_toNat_le, same, UInt8.reduceToNat]
  exact ⟨lower, upper⟩

theorem digitsValue_numeral (value : Nat) :
    digitsValue (numeral value) = value := by
  have agree : ∀ (characters : List Char) (start : Nat),
      (∀ character ∈ characters, character.isDigit = true) →
      (characters.map fun character =>
          UInt8.ofNat character.toNat).foldl
          (fun value digit => 10 * value + (digit.toNat - 48)) start =
        Nat.ofDigitChars 10 characters start := by
    intro characters
    induction characters with
    | nil => simp
    | cons character rest ih =>
        intro start digits
        have same := (toNat_digit (digits character (by simp))).1
        rw [List.map_cons, List.foldl_cons, Nat.ofDigitChars_cons,
          ih _ fun other member => digits other (by simp [member]), same]
        rfl
  rw [digitsValue, numeral, agree _ _ fun character member =>
    Nat.isDigit_of_mem_toDigits (by decide) (by decide) member]
  exact Nat.ofDigitChars_ten_toDigits

/-- `stoi` reads back the numeral of every number that fits in an `int`. -/
theorem stoi_numeral
    {value : Nat} (bounded : (value : Int) ≤ intMax) :
    stoi (numeral value) = .ok value := by
  rw [stoi_of_isNumeral (isNumeral_numeral value), digitsValue_numeral,
    if_neg (Int.not_lt.mpr bounded)]

end ServerUtils.Parser.StdString
