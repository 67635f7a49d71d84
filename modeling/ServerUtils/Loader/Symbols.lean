import ServerUtils.Foundation.Chunking
import ServerUtils.Foundation.Search
import ServerUtils.Parser.StdString

/-!
# Reading the output of `nm`

`get_symbols` of `dem.cpp` over the bytes which the pipe delivers: `fgets` into
a buffer of 128 bytes, and two `sscanf` formats on every piece.  The conversions
of the formats have a definition each; what they accept together is the
predicate `ReadsAsSymbol`.
-/

namespace ServerUtils.Loader.Symbols

open ServerUtils.Foundation.Chunking
open ServerUtils.Foundation.Search
open ServerUtils.Parser.StdString

/-- `isxdigit`. -/
def isxdigit (byte : UInt8) : Bool :=
  isdigit byte || (65 ≤ byte && byte ≤ 70) || (97 ≤ byte && byte ≤ 102)

/-- An optional sign before a number. -/
def skipSign (text : Bytes) : Bytes :=
  if text.head? = some 43 ∨ text.head? = some 45 then text.tail else text

/-- An optional `0x` before a hexadecimal number. -/
def skipPrefix : Bytes → Bytes
  | 48 :: 120 :: text => text
  | 48 :: 88 :: text => text
  | text => text

/-- `%*x`: what is left after the number, if there is one. -/
def scanHex (text : Bytes) : Option Bytes :=
  let digits := skipPrefix (skipSign (text.dropWhile isspace))
  if digits.takeWhile isxdigit = [] then none
  else some (digits.dropWhile isxdigit)

/-- ` %c`: the next byte that is not white space, and what is left. -/
def scanChar (text : Bytes) : Option (UInt8 × Bytes) :=
  match text.dropWhile isspace with
  | [] => none
  | byte :: rest => some (byte, rest)

/-- ` %ms`: the next word, and what is left. -/
def scanWord (text : Bytes) : Option (Bytes × Bytes) :=
  let text := text.dropWhile isspace
  let word := text.takeWhile fun byte => !isspace byte
  if word = [] then none
  else some (word, text.dropWhile fun byte => !isspace byte)

/-- `sscanf(buffer, "%*x %c %ms %ms", ..)`, if it returns 3. -/
def scanThree (buffer : Bytes) : Option (UInt8 × Bytes × Bytes) := do
  let rest ← scanHex buffer
  let (type, rest) ← scanChar rest
  let (name, rest) ← scanWord rest
  let (demangled_name, _) ← scanWord rest
  some (type, name, demangled_name)

/-- `sscanf(buffer, "%*x %c %ms", ..)`, if it returns 2. -/
def scanTwo (buffer : Bytes) : Option (UInt8 × Bytes) := do
  let rest ← scanHex buffer
  let (type, rest) ← scanChar rest
  let (name, _) ← scanWord rest
  some (type, name)

/-- The buffer as a C string: up to the first zero byte. -/
def cString (buffer : Bytes) : Bytes :=
  buffer.takeWhile fun byte => byte != 0

/-- The body of the loop: what is pushed for one buffer. -/
def symbolOf (buffer : Bytes) : Option Bytes :=
  let buffer := cString buffer
  let otherwise :=
    match scanTwo buffer with
    | some (type, name) => if type = 84 then some name else none
    | none => none
  match scanThree buffer with
  | some (type, _, demangled_name) =>
      if type = 84 then some demangled_name else otherwise
  | none => otherwise

/-- `get_symbols`; without a pipe there is no output. -/
def getSymbols (pipe : Option Bytes) : List Bytes :=
  match pipe with
  | none => []
  | some output => (chunks 10 127 output).filterMap symbolOf

/-! ## The conversions -/

variable {text rest : Bytes}

theorem not_isspace_of_isxdigit
    {byte : UInt8} (hex : isxdigit byte = true) : isspace byte = false := by
  simp only [isxdigit, isdigit, Bool.or_eq_true, Bool.and_eq_true,
    decide_eq_true_eq, UInt8.le_iff_toNat_le] at hex
  simp only [isspace, Bool.or_eq_false_iff, Bool.and_eq_false_iff,
    decide_eq_false_iff_not, beq_eq_false_iff_ne, ne_eq,
    ← UInt8.toNat_inj, UInt8.le_iff_toNat_le]
  simp only [UInt8.reduceToNat] at hex ⊢
  omega

/-- White space ends a number. -/
theorem endsHex_of_isspace
    {byte : UInt8} (space : isspace byte = true) :
    isxdigit byte = false ∧ byte ≠ 120 ∧ byte ≠ 88 := by
  refine ⟨?_, ?_, ?_⟩
  · by_contra hex
    rw [Bool.not_eq_false] at hex
    rw [not_isspace_of_isxdigit hex] at space
    cases space
  · rintro rfl
    exact absurd space (by decide)
  · rintro rfl
    exact absurd space (by decide)

/-- A word is not empty and has no white space. -/
def IsWord (word : Bytes) : Prop :=
  word ≠ [] ∧ ∀ byte ∈ word, isspace byte = false

instance (word : Bytes) : Decidable (IsWord word) :=
  inferInstanceAs (Decidable (_ ∧ _))

theorem isWord_of_scanWord
    {word : Bytes} (scanned : scanWord text = some (word, rest)) :
    IsWord word := by
  simp only [scanWord] at scanned
  split_ifs at scanned with empty
  cases scanned
  refine ⟨empty, fun byte member => ?_⟩
  simpa using List.mem_takeWhile_imp member

/-- White space before a word is skipped. -/
theorem scanWord_space
    {byte : UInt8} (space : isspace byte = true) :
    scanWord (byte :: text) = scanWord text := by
  simp [scanWord, space]

/-- A word at the end, or before white space, is read whole. -/
theorem scanWord_word
    {word : Bytes} (isWord : IsWord word)
    (ended : ∀ byte, rest.head? = some byte → isspace byte = true) :
    scanWord (word ++ rest) = some (word, rest) := by
  rcases isWord with ⟨filled, clean⟩
  have negated : ∀ byte ∈ word, (!isspace byte) = true := by
    intro byte member
    rw [clean byte member]
    rfl
  have kept : (word ++ rest).dropWhile isspace = word ++ rest := by
    rcases List.exists_cons_of_ne_nil filled with ⟨first, others, rfl⟩
    simp [clean first List.mem_cons_self]
  have boundary : ∀ byte, rest.head? = some byte →
      (!isspace byte) = false := by
    intro byte isHead
    rw [ended byte isHead]
    rfl
  simp only [scanWord, kept, takeWhile_append_stop negated boundary,
    dropWhile_append_stop negated boundary, filled, if_false]

/-- Something is read wherever there is a byte that is not white space. -/
theorem scanWord_isSome
    {byte : UInt8} (member : byte ∈ text) (visible : isspace byte = false) :
    ∃ word rest, scanWord text = some (word, rest) := by
  cases left : text.dropWhile isspace with
  | nil =>
      have blank := List.dropWhile_eq_nil_iff.mp left byte member
      rw [visible] at blank
      cases blank
  | cons first others =>
      have notSpace : isspace first = false :=
        dropWhile_head_stop text first (by rw [left]; rfl)
      simp [scanWord, left, notSpace]

theorem scanWord_of_blank
    (blank : ∀ byte ∈ text, isspace byte = true) : scanWord text = none := by
  simp [scanWord, List.dropWhile_eq_nil_iff.mpr blank]

/-- What the formats read after the type. -/
def wordsOf (text : Bytes) : Option Bytes :=
  match scanWord text with
  | none => none
  | some (name, rest) =>
      match scanWord rest with
      | none => some name
      | some (demangled_name, _) => some demangled_name

/-- Both formats together: the last of at most two words after a `T`. -/
theorem symbolOf_eq (buffer : Bytes) :
    symbolOf buffer =
      match scanHex (cString buffer) with
      | none => none
      | some rest =>
          match scanChar rest with
          | none => none
          | some (type, rest) => if type = 84 then wordsOf rest else none := by
  simp only [symbolOf, scanThree, scanTwo, wordsOf, Option.bind_eq_bind]
  cases scanHex (cString buffer) with
  | none => rfl
  | some rest =>
      simp only [Option.bind_some]
      cases scanChar rest with
      | none => rfl
      | some scanned =>
          rcases scanned with ⟨type, rest⟩
          simp only [Option.bind_some]
          cases scanWord rest with
          | none => simp
          | some scanned =>
              rcases scanned with ⟨name, rest⟩
              simp only [Option.bind_some]
              cases scanWord rest with
              | none => rfl
              | some scanned =>
                  by_cases isText : type = 84
                  · simp [isText]
                  · simp [isText]

/-! ## What reads as a symbol -/

/-- The parts of a text that starts with a hexadecimal number. -/
structure StartsWithHex
    (text spaces sign zeroX digits rest : Bytes) : Prop where
  glue : text = spaces ++ (sign ++ (zeroX ++ (digits ++ rest)))
  spaces : ∀ byte ∈ spaces, isspace byte = true
  isSign : sign = [] ∨ sign = str "+" ∨ sign = str "-"
  isPrefix : zeroX = [] ∨ zeroX = str "0x" ∨ zeroX = str "0X"
  filled : digits ≠ []
  digits : ∀ byte ∈ digits, isxdigit byte = true

/-- A number, a `T` and a word, with any white space between them. -/
def ReadsAsSymbol (text : Bytes) : Prop :=
  ∃ spaces sign zeroX digits gap tail byte,
    StartsWithHex text spaces sign zeroX digits (gap ++ 84 :: tail) ∧
      (∀ byte ∈ gap, isspace byte = true) ∧
      byte ∈ tail ∧ isspace byte = false

theorem exists_sign (text : Bytes) :
    ∃ sign, text = sign ++ skipSign text ∧
      (sign = [] ∨ sign = str "+" ∨ sign = str "-") := by
  rw [skipSign]
  split_ifs with signed
  · rcases signed with plus | minus
    · rcases List.head?_eq_some_iff.mp plus with ⟨tail, rfl⟩
      exact ⟨str "+", rfl, Or.inr (Or.inl rfl)⟩
    · rcases List.head?_eq_some_iff.mp minus with ⟨tail, rfl⟩
      exact ⟨str "-", rfl, Or.inr (Or.inr rfl)⟩
  · exact ⟨[], rfl, Or.inl rfl⟩

theorem exists_prefix (text : Bytes) :
    ∃ zeroX, text = zeroX ++ skipPrefix text ∧
      (zeroX = [] ∨ zeroX = str "0x" ∨ zeroX = str "0X") := by
  fun_cases skipPrefix text with
  | case1 text => exact ⟨str "0x", rfl, Or.inr (Or.inl rfl)⟩
  | case2 text => exact ⟨str "0X", rfl, Or.inr (Or.inr rfl)⟩
  | case3 => exact ⟨[], rfl, Or.inl rfl⟩

theorem startsWithHex_of_scanHex (scanned : scanHex text = some rest) :
    ∃ spaces sign zeroX digits,
      StartsWithHex text spaces sign zeroX digits rest := by
  simp only [scanHex] at scanned
  split_ifs at scanned with empty
  cases scanned
  rcases exists_sign (text.dropWhile isspace) with ⟨sign, signGlue, isSign⟩
  rcases exists_prefix (skipSign (text.dropWhile isspace)) with
    ⟨zeroX, prefixGlue, isPrefix⟩
  refine ⟨text.takeWhile isspace, sign, zeroX,
    (skipPrefix (skipSign (text.dropWhile isspace))).takeWhile isxdigit, ?_⟩
  exact
    { glue := by
        rw [List.takeWhile_append_dropWhile, ← prefixGlue, ← signGlue,
          List.takeWhile_append_dropWhile]
      spaces := fun byte member => List.mem_takeWhile_imp member
      isSign := isSign
      isPrefix := isPrefix
      filled := empty
      digits := fun byte member => List.mem_takeWhile_imp member }

theorem skipSign_append
    {sign body : Bytes}
    (isSign : sign = [] ∨ sign = str "+" ∨ sign = str "-")
    (hex : ∀ byte, body.head? = some byte → isxdigit byte = true) :
    skipSign (sign ++ body) = body := by
  rcases isSign with rfl | rfl | rfl
  · have unsigned : ¬ (body.head? = some 43 ∨ body.head? = some 45) := by
      rintro (plus | minus)
      · exact absurd (hex 43 plus) (by decide)
      · exact absurd (hex 45 minus) (by decide)
    exact if_neg unsigned
  · rfl
  · rfl

theorem skipPrefix_of_plain
    (plain : ∀ first second tail, text = first :: second :: tail →
      second ≠ 120 ∧ second ≠ 88) :
    skipPrefix text = text := by
  fun_cases skipPrefix text with
  | case1 tail => exact absurd rfl (plain 48 120 tail rfl).1
  | case2 tail => exact absurd rfl (plain 48 88 tail rfl).2
  | case3 => rfl

theorem skipPrefix_append
    {zeroX digits : Bytes}
    (isPrefix : zeroX = [] ∨ zeroX = str "0x" ∨ zeroX = str "0X")
    (filled : digits ≠ []) (hex : ∀ byte ∈ digits, isxdigit byte = true)
    (ended : ∀ byte, rest.head? = some byte → byte ≠ 120 ∧ byte ≠ 88) :
    skipPrefix (zeroX ++ (digits ++ rest)) = digits ++ rest := by
  rcases isPrefix with rfl | rfl | rfl
  · apply skipPrefix_of_plain
    intro first second tail equal
    rcases List.exists_cons_of_ne_nil filled with ⟨digit, digits, rfl⟩
    simp only [List.nil_append, List.cons_append, List.cons.injEq] at equal
    cases digits with
    | nil =>
        apply ended second
        rw [List.nil_append] at equal
        rw [equal.2]
        rfl
    | cons other digits =>
        rw [List.cons_append, List.cons.injEq] at equal
        have isDigit := hex other (by simp)
        rw [equal.2.1] at isDigit
        constructor
        · rintro rfl
          exact absurd isDigit (by decide)
        · rintro rfl
          exact absurd isDigit (by decide)
  · rfl
  · rfl

/-- A number is read whole if nothing continues it. -/
theorem scanHex_of_startsWithHex
    {spaces sign zeroX digits : Bytes}
    (parts : StartsWithHex text spaces sign zeroX digits rest)
    (ended : ∀ byte, rest.head? = some byte →
      isxdigit byte = false ∧ byte ≠ 120 ∧ byte ≠ 88) :
    scanHex text = some rest := by
  have hexHead : ∀ byte, (zeroX ++ (digits ++ rest)).head? = some byte →
      isxdigit byte = true := by
    intro byte isHead
    rcases parts.isPrefix with rfl | rfl | rfl
    · rcases List.exists_cons_of_ne_nil parts.filled with
        ⟨digit, others, rfl⟩
      cases isHead
      exact parts.digits _ List.mem_cons_self
    · cases isHead
      rfl
    · cases isHead
      rfl
  have visible : ∀ byte,
      (sign ++ (zeroX ++ (digits ++ rest))).head? = some byte →
        isspace byte = false := by
    intro byte isHead
    rcases parts.isSign with rfl | rfl | rfl
    · exact not_isspace_of_isxdigit (hexHead byte isHead)
    · cases isHead
      rfl
    · cases isHead
      rfl
  rw [parts.glue, scanHex, dropWhile_append_stop parts.spaces visible]
  simp only [skipSign_append parts.isSign hexHead,
    skipPrefix_append parts.isPrefix parts.filled parts.digits
      fun byte isHead => (ended byte isHead).2,
    takeWhile_append_stop parts.digits
      fun byte isHead => (ended byte isHead).1,
    dropWhile_append_stop parts.digits
      fun byte isHead => (ended byte isHead).1,
    parts.filled, if_false]

theorem cString_of_clean (clean : 0 ∉ text) : cString text = text := by
  rw [cString, List.takeWhile_eq_self_iff]
  intro byte member
  simp only [bne_iff_ne, ne_eq]
  rintro rfl
  exact clean member

theorem wordsOf_isSome
    {byte : UInt8} (member : byte ∈ text) (visible : isspace byte = false) :
    ∃ name, wordsOf text = some name := by
  rcases scanWord_isSome member visible with ⟨name, rest, scanned⟩
  rw [wordsOf, scanned]
  cases second : scanWord rest with
  | none => exact ⟨name, by simp only [second]⟩
  | some pair => exact ⟨pair.1, by simp only [second]⟩

/-- What is pushed is a word. -/
theorem isWord_of_wordsOf {name : Bytes} (words : wordsOf text = some name) :
    IsWord name := by
  rw [wordsOf] at words
  cases first : scanWord text with
  | none =>
      rw [first] at words
      cases words
  | some pair =>
      rcases pair with ⟨word, rest⟩
      simp only [first] at words
      cases second : scanWord rest with
      | none =>
          rw [second] at words
          cases words
          exact isWord_of_scanWord first
      | some pair =>
          rcases pair with ⟨other, later⟩
          rw [second] at words
          cases words
          exact isWord_of_scanWord second

theorem scanChar_append
    {gap : Bytes} {byte : UInt8}
    (isGap : ∀ byte ∈ gap, isspace byte = true)
    (visible : isspace byte = false) (tail : Bytes) :
    scanChar (gap ++ byte :: tail) = some (byte, tail) := by
  have left : (gap ++ byte :: tail).dropWhile isspace = byte :: tail := by
    apply dropWhile_append_stop isGap
    intro other isHead
    cases isHead
    exact visible
  rw [scanChar, left]

theorem exists_gap_of_scanChar
    {byte : UInt8} {tail : Bytes}
    (scanned : scanChar text = some (byte, tail)) :
    ∃ gap, text = gap ++ byte :: tail ∧
      ∀ byte ∈ gap, isspace byte = true := by
  refine ⟨text.takeWhile isspace, ?_,
    fun byte member => List.mem_takeWhile_imp member⟩
  rw [scanChar] at scanned
  split at scanned
  · cases scanned
  · rename_i left
    cases scanned
    rw [← left, List.takeWhile_append_dropWhile]

/-- What is pushed for a buffer, conversion by conversion. -/
theorem symbolOf_eq_some_iff {name : Bytes} (clean : 0 ∉ text) :
    symbolOf text = some name ↔
      ∃ rest tail, scanHex text = some rest ∧
        scanChar rest = some (84, tail) ∧ wordsOf tail = some name := by
  rw [symbolOf_eq, cString_of_clean clean]
  constructor
  · intro pushed
    cases number : scanHex text with
    | none =>
        rw [number] at pushed
        cases pushed
    | some rest =>
        simp only [number] at pushed
        cases type : scanChar rest with
        | none =>
            rw [type] at pushed
            cases pushed
        | some pair =>
            simp only [type] at pushed
            split_ifs at pushed with isText
            refine ⟨rest, pair.2, rfl, ?_, pushed⟩
            rw [type, ← isText]
  · rintro ⟨rest, tail, number, type, words⟩
    simp only [number, type, if_true, words]

/-- Something is pushed exactly for the buffers that read as a symbol. -/
theorem symbolOf_isSome_iff (clean : 0 ∉ text) :
    (∃ name, symbolOf text = some name) ↔ ReadsAsSymbol text := by
  constructor
  · rintro ⟨name, pushed⟩
    rcases (symbolOf_eq_some_iff clean).mp pushed with
      ⟨rest, tail, number, type, words⟩
    rcases startsWithHex_of_scanHex number with
      ⟨spaces, sign, zeroX, digits, parts⟩
    rcases exists_gap_of_scanChar type with ⟨gap, rfl, isGap⟩
    have visible : ∃ byte ∈ tail, isspace byte = false := by
      by_contra blank
      simp only [not_exists, not_and, Bool.not_eq_false] at blank
      rw [wordsOf, scanWord_of_blank blank] at words
      cases words
    rcases visible with ⟨byte, member, visible⟩
    exact ⟨spaces, sign, zeroX, digits, gap, tail, byte, parts, isGap,
      member, visible⟩
  · rintro ⟨spaces, sign, zeroX, digits, gap, tail, byte, parts, isGap,
      member, visible⟩
    have ended : ∀ byte, (gap ++ 84 :: tail).head? = some byte →
        isxdigit byte = false ∧ byte ≠ 120 ∧ byte ≠ 88 := by
      intro byte isHead
      cases gap with
      | nil =>
          cases isHead
          decide
      | cons first gap =>
          cases isHead
          exact endsHex_of_isspace (isGap byte List.mem_cons_self)
    rcases wordsOf_isSome member visible with ⟨name, words⟩
    refine ⟨name, (symbolOf_eq_some_iff clean).mpr ⟨gap ++ 84 :: tail, tail,
      scanHex_of_startsWithHex parts ended, ?_, words⟩⟩
    exact scanChar_append isGap (by decide) tail

end ServerUtils.Loader.Symbols
