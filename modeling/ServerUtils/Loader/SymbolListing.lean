import ServerUtils.Loader.Symbols

/-!
# The symbols that are listed

The lines of `nm -gC`, and what `get_symbols` makes of them.  A demangled name
with white space is cut to one of its words, a line that does not fit into the
buffer is taken for several, and a later piece of any line may read as a symbol
of its own.  `Listable` excludes the three, and nothing else.
-/

namespace ServerUtils.Loader.SymbolListing

open ServerUtils.Foundation.Chunking
open ServerUtils.Foundation.Search
open ServerUtils.Parser.StdString
open ServerUtils.Loader.Symbols

/-! ## Lines -/

/-- A demangled name: any bytes that stay on one line. -/
structure SymbolName where
  bytes : Bytes
  filled : bytes ≠ []
  noNewline : 10 ∉ bytes
  noZero : 0 ∉ bytes

structure Address where
  digits : Bytes
  filled : digits ≠ []
  hex : ∀ byte ∈ digits, isxdigit byte = true

/-- The letter of a defined symbol. -/
structure SymbolType where
  byte : UInt8
  visible : isspace byte = false
  nonzero : byte ≠ 0

/-- The letters of undefined symbols. -/
inductive UndefinedType where
  | U
  | v
  | w

def UndefinedType.byte : UndefinedType → UInt8
  | .U => 85
  | .v => 118
  | .w => 119

/-- A line without its newline. -/
inductive Line where
  | defined (address : Address) (type : SymbolType) (name : SymbolName)
  | undefined (blanks : Nat) (type : UndefinedType) (name : SymbolName)

def Line.text : Line → Bytes
  | .defined address type name =>
      address.digits ++ 32 :: type.byte :: 32 :: name.bytes
  | .undefined blanks type name =>
      List.replicate blanks 32 ++ type.byte :: 32 :: name.bytes

/-- What `nm` prints. -/
def nmOutput (lines : List Line) : Bytes :=
  lines.flatMap fun line => line.text ++ [10]

/-- The names that the line should contribute. -/
def Line.symbols : Line → List Bytes
  | .defined _ type name => if type.byte = 84 then [name.bytes] else []
  | .undefined _ _ _ => []

/-- The listing is exact. -/
def Exact (lines : List Line) : Prop :=
  getSymbols (some (nmOutput lines)) = lines.flatMap Line.symbols

/-- The line does not reach the three defects. -/
structure Line.Listable (line : Line) : Prop where
  /-- the name is one word -/
  word : ∀ name ∈ line.symbols, ∀ byte ∈ name, isspace byte = false
  /-- the line fits into the buffer, without its newline -/
  fits : line.symbols ≠ [] → line.text.length ≤ 127
  /-- a line without a name does not look like one further on -/
  others : line.symbols = [] →
    ∀ piece ∈ (recordChunks 10 127 line.text).tail, ¬ ReadsAsSymbol piece

/-- The address leaves room for the name in the first piece; those that `nm`
prints have at most 16 digits. -/
def Line.ShortAddress : Line → Prop
  | .defined address type _ =>
      type.byte = 84 → address.digits.length < 124
  | .undefined _ _ _ => True

/-! ## Line by line -/

/-- What is pushed while the line is read. -/
def Line.pushed (line : Line) : List Bytes :=
  (recordChunks 10 127 line.text).filterMap symbolOf

theorem not_mem_digits
    {address : Address} {byte : UInt8} (outside : isxdigit byte = false) :
    byte ∉ address.digits := by
  intro member
  rw [address.hex byte member] at outside
  cases outside

theorem Line.noNewline (line : Line) : 10 ∉ line.text := by
  cases line with
  | defined address type name =>
      have differs : (10 : UInt8) ≠ type.byte := by
        intro same
        have visible := type.visible
        rw [← same] at visible
        exact absurd visible (by decide)
      simp [Line.text, not_mem_digits (by decide : isxdigit 10 = false),
        differs, name.noNewline]
  | undefined blanks type name =>
      cases type <;>
        simp [Line.text, UndefinedType.byte, name.noNewline]

theorem Line.noZero (line : Line) : 0 ∉ line.text := by
  cases line with
  | defined address type name =>
      simp [Line.text, not_mem_digits (by decide : isxdigit 0 = false),
        type.nonzero.symm, name.noZero]
  | undefined blanks type name =>
      cases type <;>
        simp [Line.text, UndefinedType.byte, name.noZero]

/-- No piece of a line has a zero byte. -/
theorem Line.pieces_noZero
    {line : Line} {piece : Bytes}
    (isPiece : piece ∈ recordChunks 10 127 line.text) : 0 ∉ piece := by
  intro member
  have inside : 0 ∈ line.text ++ [10] := mem_of_mem_chunks isPiece member
  have notInside : 0 ∉ line.text ++ [10] := by simp [line.noZero]
  exact notInside inside

/-- Lines are read one after the other. -/
theorem getSymbols_nmOutput (lines : List Line) :
    getSymbols (some (nmOutput lines)) = lines.flatMap Line.pushed := by
  rw [getSymbols, nmOutput,
    chunks_records (fun line _ => line.noNewline) (by decide),
    List.filterMap_flatMap]
  rfl

/-- Only words are pushed. -/
theorem isWord_of_mem_pushed
    {line : Line} {name : Bytes} (isPushed : name ∈ line.pushed) :
    IsWord name := by
  rcases List.mem_filterMap.mp isPushed with ⟨piece, isPiece, pushed⟩
  rcases (symbolOf_eq_some_iff (Line.pieces_noZero isPiece)).mp pushed with
    ⟨_, _, _, _, words⟩
  exact isWord_of_wordsOf words

/-- The first piece of the line, or the line with its newline. -/
def Line.firstPiece (line : Line) : Bytes := (line.text ++ [10]).take 127

theorem Line.firstPiece_noZero (line : Line) : 0 ∉ line.firstPiece := by
  intro member
  have inside := List.mem_of_mem_take member
  simp [line.noZero] at inside

theorem Line.recordChunks_eq (line : Line) :
    recordChunks 10 127 line.text =
      line.firstPiece ::
        if line.text.length < 127 then []
        else recordChunks 10 127 (line.text.drop 127) :=
  recordChunks_eq_cons line.noNewline (by decide)

/-! ## Lines without a name to list -/

/-- An address ends at the blank, or at the end of the buffer. -/
theorem scanHex_address
    {digits rest : Bytes} (filled : digits ≠ [])
    (hex : ∀ byte ∈ digits, isxdigit byte = true)
    (blank : ∀ byte, rest.head? = some byte → byte = 32) :
    scanHex (digits ++ rest) = some rest := by
  have parts : StartsWithHex (digits ++ rest) [] [] [] digits rest :=
    { glue := rfl
      spaces := fun _ member => by cases member
      isSign := Or.inl rfl
      isPrefix := Or.inl rfl
      filled := filled
      digits := hex }
  apply scanHex_of_startsWithHex parts
  intro byte isHead
  rw [blank byte isHead]
  decide

theorem firstPiece_defined
    (address : Address) (type : SymbolType) (name : SymbolName) :
    (Line.defined address type name).firstPiece =
      address.digits.take 127 ++
        (32 :: type.byte :: 32 :: (name.bytes ++ [10])).take
          (127 - address.digits.length) := by
  simp [Line.firstPiece, Line.text, List.take_append]

/-- The first piece of a defined symbol is read up to its type. -/
theorem symbolOf_firstPiece_of_ne
    {address : Address} {type : SymbolType} {name : SymbolName}
    (notText : type.byte ≠ 84) :
    symbolOf (Line.defined address type name).firstPiece = none := by
  have clean := (Line.defined address type name).firstPiece_noZero
  have filled : address.digits.take 127 ≠ [] := by
    simp [List.take_eq_nil_iff, address.filled]
  have hex : ∀ byte ∈ address.digits.take 127, isxdigit byte = true :=
    fun byte member => address.hex byte (List.mem_of_mem_take member)
  rw [symbolOf_eq, cString_of_clean clean, firstPiece_defined]
  generalize 127 - address.digits.length = room
  rw [scanHex_address filled hex]
  · cases room with
    | zero => rfl
    | succ room =>
        cases room with
        | zero => rfl
        | succ room =>
            simp [scanChar, List.take_succ_cons, type.visible, notText,
              (by decide : isspace 32 = true)]
  · intro byte isHead
    cases room with
    | zero => cases isHead
    | succ room =>
        cases isHead
        rfl

/-- No number starts with the letter of an undefined symbol. -/
theorem scanHex_undefined
    {spaces rest : Bytes} (type : UndefinedType)
    (blank : ∀ byte ∈ spaces, isspace byte = true)
    (letter : ∀ byte, rest.head? = some byte → byte = type.byte) :
    scanHex (spaces ++ rest) = none := by
  have visible : ∀ byte, rest.head? = some byte → isspace byte = false := by
    intro byte isHead
    rw [letter byte isHead]
    cases type <;> rfl
  rw [scanHex, dropWhile_append_stop blank visible]
  cases rest with
  | nil => rfl
  | cons byte rest =>
      have same : byte = type.byte := letter byte rfl
      subst same
      cases type <;> rfl

theorem symbolOf_firstPiece_undefined
    (blanks : Nat) (type : UndefinedType) (name : SymbolName) :
    symbolOf (Line.undefined blanks type name).firstPiece = none := by
  have clean := (Line.undefined blanks type name).firstPiece_noZero
  have piece : (Line.undefined blanks type name).firstPiece =
      (List.replicate blanks 32).take 127 ++
        (type.byte :: 32 :: (name.bytes ++ [10])).take (127 - blanks) := by
    simp [Line.firstPiece, Line.text, List.take_append]
  rw [symbolOf_eq, cString_of_clean clean, piece,
    scanHex_undefined type]
  · intro byte member
    rw [(List.mem_replicate.mp (List.mem_of_mem_take member)).2]
    rfl
  · intro byte isHead
    rw [List.head?_take] at isHead
    split_ifs at isHead
    exact (Option.some.inj isHead).symm

theorem symbolOf_firstPiece_of_no_symbols
    {line : Line} (other : line.symbols = []) :
    symbolOf line.firstPiece = none := by
  cases line with
  | defined address type name =>
      apply symbolOf_firstPiece_of_ne
      intro isText
      simp [Line.symbols, isText] at other
  | undefined blanks type name =>
      exact symbolOf_firstPiece_undefined blanks type name

/-- Such a line pushes nothing exactly if its later pieces do not. -/
theorem pushed_eq_nil_iff
    {line : Line} (other : line.symbols = []) :
    line.pushed = [] ↔
      ∀ piece ∈ (recordChunks 10 127 line.text).tail,
        ¬ ReadsAsSymbol piece := by
  have first := symbolOf_firstPiece_of_no_symbols other
  rw [Line.pushed]
  have noZero : ∀ piece ∈ recordChunks 10 127 line.text, 0 ∉ piece :=
    fun _ isPiece => Line.pieces_noZero isPiece
  rw [line.recordChunks_eq] at noZero ⊢
  rw [List.filterMap_cons_none first, List.filterMap_eq_nil_iff,
    List.tail_cons]
  refine forall₂_congr fun piece isPiece => ?_
  rw [← symbolOf_isSome_iff (noZero piece (List.mem_cons_of_mem _ isPiece)),
    not_exists]
  exact Option.eq_none_iff_forall_ne_some

/-! ## Lines with a name to list -/

section Text

variable {address : Address} {type : SymbolType} {name : SymbolName}

/-- The first piece of a symbol in the text section: as much of the name as
there is room for. -/
theorem symbolOf_firstPiece_text
    (isText : type.byte = 84) (short : address.digits.length < 124) :
    symbolOf (Line.defined address type name).firstPiece =
      wordsOf ((name.bytes ++ [10]).take (124 - address.digits.length)) := by
  have clean := (Line.defined address type name).firstPiece_noZero
  have room : 127 - address.digits.length =
      (124 - address.digits.length) + 3 := by omega
  rw [symbolOf_eq, cString_of_clean clean, firstPiece_defined, room,
    List.take_of_length_le (by omega : address.digits.length ≤ 127),
    List.take_succ_cons, List.take_succ_cons, List.take_succ_cons,
    scanHex_address address.filled address.hex fun byte isHead => by
      cases isHead
      rfl]
  generalize (name.bytes ++ [10]).take (124 - address.digits.length) = tail
  have blank : isspace 32 = true := by decide
  have scanned : scanChar (32 :: 84 :: 32 :: tail) =
      some (84, 32 :: tail) := rfl
  simp only [isText, scanned, if_true, wordsOf, scanWord_space blank]

/-- One word, alone or before a newline. -/
theorem wordsOf_word
    {word rest : Bytes} (isWord : IsWord word)
    (blank : ∀ byte ∈ rest, isspace byte = true) :
    wordsOf (word ++ rest) = some word := by
  have ended : ∀ byte, rest.head? = some byte → isspace byte = true :=
    fun byte isHead => blank byte (List.mem_of_mem_head? isHead)
  simp only [wordsOf, scanWord_word isWord ended, scanWord_of_blank blank]

theorem text_length
    (address : Address) (type : SymbolType) (name : SymbolName) :
    (Line.defined address type name).text.length =
      address.digits.length + 3 + name.bytes.length := by
  simp only [Line.text, List.length_append, List.length_cons]
  omega

/-- Of a name that is one word, the first piece gives what fits. -/
theorem symbolOf_firstPiece_word
    (isText : type.byte = 84) (short : address.digits.length < 124)
    (isWord : IsWord name.bytes) :
    symbolOf (Line.defined address type name).firstPiece =
      some (name.bytes.take (124 - address.digits.length)) := by
  have isWordTake :
      IsWord (name.bytes.take (124 - address.digits.length)) := by
    refine ⟨?_, fun byte member =>
      isWord.2 byte (List.mem_of_mem_take member)⟩
    rw [ne_eq, List.take_eq_nil_iff, not_or]
    exact ⟨by omega, isWord.1⟩
  rw [symbolOf_firstPiece_text isText short, List.take_append]
  apply wordsOf_word isWordTake
  intro byte member
  rw [List.mem_singleton.mp (List.mem_of_mem_take member)]
  rfl

/-- A line that fits is read as the name. -/
theorem pushed_of_fits
    (isText : type.byte = 84) (isWord : IsWord name.bytes)
    (fits : (Line.defined address type name).text.length ≤ 127) :
    (Line.defined address type name).pushed = [name.bytes] := by
  have length := text_length address type name
  have positive : 0 < name.bytes.length :=
    List.length_pos_of_ne_nil name.filled
  have short : address.digits.length < 124 := by omega
  have first := symbolOf_firstPiece_word isText short isWord
  rw [List.take_of_length_le (by omega)] at first
  rw [Line.pushed, Line.recordChunks_eq, List.filterMap_cons_some first]
  split_ifs
  · rfl
  · -- the newline is a piece of its own
    have nothing : (Line.defined address type name).text.drop 127 = [] :=
      List.drop_eq_nil_of_le fits
    rw [nothing, recordChunks_of_short List.not_mem_nil (by decide)]
    rfl

/-- A line that is read as the name fits. -/
theorem fits_of_pushed
    (isText : type.byte = 84) (short : address.digits.length < 124)
    (isWord : IsWord name.bytes)
    (pushed : (Line.defined address type name).pushed = [name.bytes]) :
    (Line.defined address type name).text.length ≤ 127 := by
  have first := symbolOf_firstPiece_word isText short isWord
  rw [Line.pushed, Line.recordChunks_eq,
    List.filterMap_cons_some first] at pushed
  have whole := congrArg List.length (List.cons.inj pushed).1
  rw [List.length_take] at whole
  rw [text_length]
  omega

end Text

/-! ## Whole listings -/

/-- A line has one symbol to list, or none. -/
theorem Line.symbols_cases (line : Line) :
    (∃ address type name, line = .defined address type name ∧
        type.byte = 84 ∧ line.symbols = [name.bytes]) ∨
      line.symbols = [] := by
  cases line with
  | undefined blanks type name => exact Or.inr rfl
  | defined address type name =>
      by_cases isText : type.byte = 84
      · exact Or.inl ⟨address, type, name, rfl, isText, if_pos isText⟩
      · exact Or.inr (if_neg isText)

/-- A line pushes no less than it should, if what it should push are words. -/
theorem symbols_length_le
    {line : Line} (short : line.ShortAddress)
    (words : ∀ name ∈ line.symbols, IsWord name) :
    line.symbols.length ≤ line.pushed.length := by
  rcases line.symbols_cases with
    ⟨address, type, name, rfl, isText, symbols⟩ | nothing
  · have isWord : IsWord name.bytes := words name.bytes (by simp [symbols])
    have first := symbolOf_firstPiece_word isText (short isText) isWord
    rw [symbols, Line.pushed, Line.recordChunks_eq,
      List.filterMap_cons_some first]
    simp
  · rw [nothing]
    exact Nat.zero_le _

/-- A listable line pushes what it should. -/
theorem pushed_of_listable
    {line : Line} (listable : line.Listable) :
    line.pushed = line.symbols := by
  rcases line.symbols_cases with
    ⟨address, type, name, rfl, isText, symbols⟩ | nothing
  · have isWord : IsWord name.bytes :=
      ⟨name.filled, listable.word name.bytes (by simp [symbols])⟩
    rw [symbols]
    exact pushed_of_fits isText isWord (listable.fits (by simp [symbols]))
  · rw [nothing]
    exact (pushed_eq_nil_iff nothing).mpr (listable.others nothing)

theorem shortAddress_of_listable
    {line : Line} (listable : line.Listable) : line.ShortAddress := by
  cases line with
  | undefined blanks type name => exact True.intro
  | defined address type name =>
      intro isText
      have fits := listable.fits (by simp [Line.symbols, isText])
      have positive : 0 < name.bytes.length :=
        List.length_pos_of_ne_nil name.filled
      rw [text_length] at fits
      omega

/-- A line that pushes what it should is listable. -/
theorem listable_of_pushed
    {line : Line} (short : line.ShortAddress)
    (words : ∀ name ∈ line.symbols, IsWord name)
    (pushed : line.pushed = line.symbols) : line.Listable where
  word := fun name member => (words name member).2
  fits := by
    intro filled
    rcases line.symbols_cases with
      ⟨address, type, name, rfl, isText, symbols⟩ | nothing
    · have isWord : IsWord name.bytes := words name.bytes (by simp [symbols])
      rw [symbols] at pushed
      exact fits_of_pushed isText (short isText) isWord pushed
    · exact absurd nothing filled
  others := fun nothing => (pushed_eq_nil_iff nothing).mp (pushed.trans nothing)

/--
For all outputs of `nm -gC`: the listing is exact, and the addresses are
short, exactly when all lines are listable.
-/
theorem exact_iff_listable (lines : List Line) :
    (Exact lines ∧ ∀ line ∈ lines, line.ShortAddress) ↔
      ∀ line ∈ lines, line.Listable := by
  rw [Exact, getSymbols_nmOutput]
  constructor
  · rintro ⟨exact, short⟩
    have words : ∀ line ∈ lines, ∀ name ∈ line.symbols, IsWord name := by
      intro line isLine name member
      have listed : name ∈ lines.flatMap Line.symbols :=
        List.mem_flatMap.mpr ⟨line, isLine, member⟩
      rw [← exact] at listed
      rcases List.mem_flatMap.mp listed with ⟨other, _, isPushed⟩
      exact isWord_of_mem_pushed isPushed
    have enough : ∀ line ∈ lines,
        line.symbols.length ≤ line.pushed.length := fun line isLine =>
      symbols_length_le (short line isLine) (words line isLine)
    have same := (flatMap_eq_flatMap_iff enough).mp exact
    intro line isLine
    exact listable_of_pushed (short line isLine) (words line isLine)
      (same line isLine)
  · intro listable
    refine ⟨?_, fun line isLine =>
      shortAddress_of_listable (listable line isLine)⟩
    have same : ∀ line ∈ lines, line.pushed = line.symbols :=
      fun line isLine => pushed_of_listable (listable line isLine)
    exact List.flatMap_congr same

/-- A function of two arguments in the text section. -/
def twoArguments : Line :=
  .defined
    ⟨str "0000000000001139", by decide, List.all_eq_true.mp (by decide)⟩
    ⟨84, by decide, by decide⟩
    ⟨str "f(int, char)", by decide, by decide, by decide⟩

/-- Of its name, only the second word is listed. -/
theorem twoArguments_not_exact :
    getSymbols (some (nmOutput [twoArguments])) = [str "char)"] ∧
      ¬ Exact [twoArguments] := by
  have pieces : recordChunks 10 127 twoArguments.text =
      [twoArguments.text ++ [10]] :=
    recordChunks_of_short twoArguments.noNewline (by decide)
  have listed : getSymbols (some (nmOutput [twoArguments])) =
      [str "char)"] := by
    rw [getSymbols_nmOutput, List.flatMap_singleton, Line.pushed, pieces]
    decide
  refine ⟨listed, fun exact => ?_⟩
  rw [Exact, listed] at exact
  exact absurd exact (by decide)

end ServerUtils.Loader.SymbolListing
