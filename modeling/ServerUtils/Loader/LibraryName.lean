import ServerUtils.Parser.StdString

/-!
# The check of a library's name

`check_libname` of `shared.cpp` and what it calls, in the branch for Linux and
in a locale whose encoding is UTF-8.  `check_name_encoding` tests as many wide
characters as the name has bytes, so that behind a character of several bytes
it meets the terminating zero, which is not graphic.
-/

namespace ServerUtils.Loader.LibraryName

open ServerUtils.Parser.StdString

/-! ## The library calls -/

/-- `wchar_t`. -/
abbrev WChar := UInt32

/-- A C string, without the zero byte at its end. -/
structure CString where
  bytes : Bytes
  noZero : 0 ∉ bytes

/-- What is not in the code: the class of graphic characters, and what
`malloc` leaves in the buffer of a call. -/
structure Platform where
  iswgraph : WChar → Bool
  garbage : Nat → Nat → WChar

/-- The characters up to the end, or up to what cannot be decoded. -/
def decodeUtf8 (bytes : Bytes) : List Char × Bool :=
  match _decoded : bytes.toByteArray.utf8DecodeChar? 0 with
  | none => ([], bytes.isEmpty)
  | some character =>
      let (characters, whole) := decodeUtf8 (bytes.drop character.utf8Size)
      (character :: characters, whole)
termination_by bytes.length
decreasing_by
  have inside : 0 < bytes.toByteArray.size :=
    ByteArray.lt_size_of_isSome_utf8DecodeChar? (by rw [_decoded]; rfl)
  have positive := character.utf8Size_pos
  rw [List.size_toByteArray] at inside
  rw [List.length_drop]
  omega

/-- The wide characters that are written, and the zero after all of them. -/
def wideContent (bytes : Bytes) : List WChar :=
  let (characters, whole) := decodeUtf8 bytes
  characters.map Char.val ++ if whole then [0] else []

/-- `mbstowcs(wname, name, len)`. -/
def mbstowcs (wname : Nat → WChar) (name : CString) (len : Nat) :
    Nat → WChar := fun i =>
  if i < len then (wideContent name.bytes)[i]?.getD (wname i) else wname i

/-- `strrchr(name, c)`. -/
def strrchr (c : UInt8) : Bytes → Option Bytes
  | [] => none
  | byte :: rest =>
      match strrchr c rest with
      | some found => some found
      | none => if byte = c then some (byte :: rest) else none

/-- `tolower` of a byte. -/
def tolower (byte : UInt8) : UInt8 :=
  if 65 ≤ byte ∧ byte ≤ 90 then byte + 32 else byte

/-- `strcasecmp`; the end of a string compares as a zero byte. -/
def strcasecmp : Bytes → Bytes → Int
  | [], [] => 0
  | [], byte :: _ => 0 - (tolower byte).toNat
  | byte :: _, [] => (tolower byte).toNat
  | left :: lefts, right :: rights =>
      if tolower left = tolower right then strcasecmp lefts rights
      else (tolower left).toNat - (tolower right).toNat

/-! ## The checks -/

/-- `common::check_name_encoding`; the calls are numbered. -/
def checkNameEncoding
    (platform : Platform) (call : Nat) (name : CString) : Bool :=
  let len := name.bytes.length + 1
  let wname := mbstowcs (platform.garbage call) name len
  (List.range (len - 1)).all fun i => platform.iswgraph (wname i)

/-- `common::is_c_str`; `none` is a null pointer. -/
def isCStr : Option CString → Bool
  | none => false
  | some name => name.bytes.length != 0

/-- `common::check_extension`. -/
def checkExtension
    (platform : Platform) (name ext : Option CString) : Bool :=
  if !isCStr name then false
  else if !isCStr ext then false
  else
    match name, ext with
    | some name, some ext =>
        if !checkNameEncoding platform 1 name then false
        else if !checkNameEncoding platform 2 ext then false
        else
          match strrchr 46 name.bytes with -- '.'
          | none => false
          | some extension => strcasecmp extension ext.bytes == 0
    | _, _ => false

/-- The extension of libraries on Linux. -/
def soExtension : CString := ⟨str ".so", by decide⟩

/-- `common::check_libname`. -/
def checkLibname (platform : Platform) (name : Option CString) : Bool :=
  if !isCStr name then false
  else
    match name with
    | none => false
    | some name =>
        if !checkNameEncoding platform 0 name then false
        else if !checkExtension platform name soExtension then false
        else true

/-! ## Characters and bytes -/

/-- The bytes of a text in UTF-8. -/
def utf8Bytes (characters : List Char) : Bytes :=
  characters.flatMap String.utf8EncodeChar

theorem utf8Bytes_cons (character : Char) (characters : List Char) :
    utf8Bytes (character :: characters) =
      String.utf8EncodeChar character ++ utf8Bytes characters :=
  List.flatMap_cons

@[simp]
theorem length_utf8Bytes_cons (character : Char) (characters : List Char) :
    (utf8Bytes (character :: characters)).length =
      character.utf8Size + (utf8Bytes characters).length := by
  rw [utf8Bytes_cons, List.length_append, String.length_utf8EncodeChar]

/-- What is encoded is decoded to the end. -/
theorem decodeUtf8_utf8Bytes (characters : List Char) :
    decodeUtf8 (utf8Bytes characters) = (characters, true) := by
  induction characters with
  | nil =>
      rw [utf8Bytes, List.flatMap_nil, decodeUtf8]
      rfl
  | cons character characters ih =>
      have first : ByteArray.utf8DecodeChar?
          (utf8Bytes (character :: characters)).toByteArray 0 =
            some character := by
        rw [utf8Bytes_cons, List.toByteArray_append]
        exact ByteArray.utf8DecodeChar?_utf8EncodeChar_append
      have rest : (utf8Bytes (character :: characters)).drop
          character.utf8Size = utf8Bytes characters := by
        rw [utf8Bytes_cons, ← String.length_utf8EncodeChar, List.drop_left]
      rw [decodeUtf8]
      split
      · rename_i failed
        rw [first] at failed
        cases failed
      · rename_i decoded
        rw [first] at decoded
        cases decoded
        rw [rest, ih]

/-- There are at least as many bytes as characters. -/
theorem length_le_utf8Bytes (characters : List Char) :
    characters.length ≤ (utf8Bytes characters).length := by
  induction characters with
  | nil => exact Nat.le_refl 0
  | cons character characters ih =>
      have positive := character.utf8Size_pos
      rw [length_utf8Bytes_cons, List.length_cons]
      omega

/-- There are as many if every character is one byte. -/
theorem length_eq_utf8Bytes_iff (characters : List Char) :
    characters.length = (utf8Bytes characters).length ↔
      ∀ character ∈ characters, character.utf8Size = 1 := by
  induction characters with
  | nil => simp [utf8Bytes]
  | cons character characters ih =>
      have positive := character.utf8Size_pos
      have others := length_le_utf8Bytes characters
      rw [List.forall_mem_cons, ← ih, length_utf8Bytes_cons,
        List.length_cons]
      omega

/-- Behind the characters stands the zero. -/
theorem wideContent_utf8Bytes (characters : List Char) :
    wideContent (utf8Bytes characters) = characters.map Char.val ++ [0] := by
  simp only [wideContent, decodeUtf8_utf8Bytes, if_true]

section Encoding

variable {platform : Platform} {name : CString} {characters : List Char}

/-- The wide characters of a name. -/
theorem mbstowcs_character
    (isName : name.bytes = utf8Bytes characters) (wname : Nat → WChar)
    {i : Nat} (inside : i < characters.length) :
    mbstowcs wname name (name.bytes.length + 1) i = characters[i].val := by
  have atLeast := length_le_utf8Bytes characters
  have room : i < name.bytes.length + 1 := by
    rw [isName]
    omega
  rw [mbstowcs, if_pos room, isName, wideContent_utf8Bytes,
    List.getElem?_append_left (by simpa using inside), List.getElem?_map,
    List.getElem?_eq_getElem inside]
  rfl

/-- After them, the zero. -/
theorem mbstowcs_end
    (isName : name.bytes = utf8Bytes characters) (wname : Nat → WChar) :
    mbstowcs wname name (name.bytes.length + 1) characters.length = 0 := by
  have atLeast := length_le_utf8Bytes characters
  have room : characters.length < name.bytes.length + 1 := by
    rw [isName]
    omega
  rw [mbstowcs, if_pos room, isName, wideContent_utf8Bytes,
    List.getElem?_append_right (by simp)]
  simp

/--
The loop over the bytes passes exactly for graphic characters of one byte
each.
-/
theorem checkNameEncoding_iff
    (zero : platform.iswgraph 0 = false)
    (isName : name.bytes = utf8Bytes characters) (call : Nat) :
    checkNameEncoding platform call name = true ↔
      (∀ character ∈ characters, character.utf8Size = 1) ∧
        ∀ character ∈ characters,
          platform.iswgraph character.val = true := by
  have atLeast := length_le_utf8Bytes characters
  simp only [checkNameEncoding, List.all_eq_true, List.mem_range,
    Nat.add_sub_cancel, ← length_eq_utf8Bytes_iff, ← isName]
  rw [← isName] at atLeast
  constructor
  · intro passes
    have same : characters.length = name.bytes.length := by
      by_contra differs
      have inside : characters.length < name.bytes.length := by omega
      -- the terminating zero is among the characters that are tested
      have tested := passes characters.length inside
      rw [mbstowcs_end isName, zero] at tested
      cases tested
    refine ⟨same, fun character member => ?_⟩
    rcases List.getElem_of_mem member with ⟨i, inside, rfl⟩
    have tested := passes i (by omega)
    rw [mbstowcs_character isName _ inside] at tested
    exact tested
  · rintro ⟨same, graphic⟩ i bound
    have inside : i < characters.length := by omega
    rw [mbstowcs_character isName _ inside]
    exact graphic _ (List.getElem_mem inside)

end Encoding

/-! ## The extension -/

/-- The part of a name from its last dot on. -/
def LastPart (c : UInt8) (text part : Bytes) : Prop :=
  ∃ before after, text = before ++ c :: after ∧ c ∉ after ∧ part = c :: after

theorem strrchr_eq_none_iff {c : UInt8} {text : Bytes} :
    strrchr c text = none ↔ c ∉ text := by
  induction text with
  | nil => simp [strrchr]
  | cons byte rest ih =>
      rw [strrchr, List.mem_cons, not_or]
      cases found : strrchr c rest with
      | some part =>
          have later : c ∈ rest := by
            by_contra absent
            rw [ih.mpr absent] at found
            cases found
          simp [later]
      | none =>
          have absent := ih.mp found
          by_cases same : byte = c
          · simp [same]
          · simp [same, absent, Ne.symm same]

theorem strrchr_of_absent
    {c : UInt8} {after : Bytes} (absent : c ∉ after) (before : Bytes) :
    strrchr c (before ++ c :: after) = some (c :: after) := by
  induction before with
  | nil =>
      rw [List.nil_append, strrchr, strrchr_eq_none_iff.mpr absent]
      exact if_pos rfl
  | cons byte before ih => rw [List.cons_append, strrchr, ih]

theorem strrchr_eq_some_iff {c : UInt8} {text part : Bytes} :
    strrchr c text = some part ↔ LastPart c text part := by
  constructor
  · intro found
    induction text with
    | nil => cases found
    | cons byte rest ih =>
        rw [strrchr] at found
        cases later : strrchr c rest with
        | some other =>
            rw [later] at found
            cases found
            rcases ih later with ⟨before, after, rfl, absent, rfl⟩
            exact ⟨byte :: before, after, rfl, absent, rfl⟩
        | none =>
            simp only [later] at found
            split_ifs at found with same
            cases found
            exact ⟨[], rest, by rw [same]; rfl,
              strrchr_eq_none_iff.mp later, by rw [same]⟩
  · rintro ⟨before, after, rfl, absent, rfl⟩
    exact strrchr_of_absent absent before

/-- Only a zero byte is a zero byte in lower case. -/
theorem toNat_tolower_ne_zero {byte : UInt8} (nonzero : byte ≠ 0) :
    (tolower byte).toNat ≠ 0 := by
  have value : byte.toNat ≠ 0 := fun zero =>
    nonzero (UInt8.toNat_inj.mp zero)
  rw [tolower]
  split_ifs with upper
  · simp only [UInt8.le_iff_toNat_le, UInt8.reduceToNat] at upper
    rw [UInt8.toNat_add]
    simp only [UInt8.reduceToNat]
    omega
  · exact value

/-- Two C strings compare equal when they are, up to the case of letters. -/
theorem strcasecmp_eq_zero_iff
    {left right : Bytes} (leftNoZero : 0 ∉ left) (rightNoZero : 0 ∉ right) :
    strcasecmp left right = 0 ↔ left.map tolower = right.map tolower := by
  fun_induction strcasecmp left right with
  | case1 => simp
  | case2 byte rest =>
      rw [List.mem_cons, not_or] at rightNoZero
      have positive := toNat_tolower_ne_zero (Ne.symm rightNoZero.1)
      simp only [List.map_nil, List.map_cons, List.nil_eq, reduceCtorEq,
        iff_false]
      omega
  | case3 byte rest =>
      rw [List.mem_cons, not_or] at leftNoZero
      have positive := toNat_tolower_ne_zero (Ne.symm leftNoZero.1)
      simp only [List.map_nil, List.map_cons, reduceCtorEq, iff_false]
      omega
  | case4 left lefts right rights same ih =>
      rw [List.mem_cons, not_or] at leftNoZero rightNoZero
      rw [ih leftNoZero.2 rightNoZero.2, List.map_cons, List.map_cons, same,
        List.cons.injEq, eq_self_iff_true, true_and]
  | case5 left lefts right rights differs =>
      have values : (tolower left).toNat ≠ (tolower right).toNat :=
        fun equal => differs (UInt8.toNat_inj.mp equal)
      rw [List.map_cons, List.map_cons, List.cons.injEq]
      simp only [differs, false_and, iff_false]
      omega

/-- The part from the last dot on is this extension, up to case. -/
def HasExtension (bytes ext : Bytes) : Prop :=
  ∃ part, LastPart 46 bytes part ∧ part.map tolower = ext.map tolower

theorem HasExtension.ne_nil
    {bytes ext : Bytes} (extension : HasExtension bytes ext) :
    bytes ≠ [] := by
  rcases extension with ⟨part, ⟨before, after, rfl, -, -⟩, -⟩
  exact List.append_ne_nil_of_right_ne_nil before (List.cons_ne_nil 46 after)

/-! ## The whole check -/

/-- The class of graphic characters, as far as it is the same everywhere. -/
structure GraphicClass (iswgraph : WChar → Bool) : Prop where
  zero : iswgraph 0 = false
  ascii : ∀ code, 33 ≤ code → code ≤ 126 → iswgraph code = true

/-- A printable name of a shared library. -/
structure IsLibname
    (platform : Platform) (name : CString) (characters : List Char) :
    Prop where
  filled : name.bytes ≠ []
  graphic : ∀ character ∈ characters,
    platform.iswgraph character.val = true
  extension : HasExtension name.bytes soExtension.bytes

section Check

variable {platform : Platform} {name : CString} {characters : List Char}

theorem isCStr_iff (name : CString) :
    isCStr (some name) = true ↔ name.bytes ≠ [] := by
  rw [isCStr, bne_iff_ne, ne_eq, List.length_eq_zero_iff]

/-- The extension itself passes the loop. -/
theorem checkNameEncoding_soExtension
    (graphicClass : GraphicClass platform.iswgraph) (call : Nat) :
    checkNameEncoding platform call soExtension = true := by
  have isName : soExtension.bytes = utf8Bytes ['.', 's', 'o'] := by decide
  have printing : ∀ character ∈ ['.', 's', 'o'],
      character.utf8Size = 1 ∧
        33 ≤ character.val ∧ character.val ≤ 126 :=
    List.forall_mem_cons.mpr ⟨by decide,
      List.forall_mem_cons.mpr ⟨by decide,
        List.forall_mem_cons.mpr ⟨by decide, List.forall_mem_nil _⟩⟩⟩
  rw [checkNameEncoding_iff graphicClass.zero isName]
  refine ⟨fun character member => (printing character member).1,
    fun character member => ?_⟩
  rcases printing character member with ⟨-, lower, upper⟩
  exact graphicClass.ascii character.val lower upper

/-- The comparison after the two names are checked. -/
theorem matchesExtension_iff (name ext : CString) :
    (∃ part, strrchr 46 name.bytes = some part ∧
        strcasecmp part ext.bytes = 0) ↔
      HasExtension name.bytes ext.bytes := by
  refine exists_congr fun part => ?_
  rw [strrchr_eq_some_iff]
  refine and_congr_right fun last => ?_
  have noZero : 0 ∉ part := by
    rcases last with ⟨before, after, glue, -, rfl⟩
    intro member
    exact name.noZero (glue ▸ List.mem_append_right before member)
  exact strcasecmp_eq_zero_iff noZero ext.noZero

theorem checkExtension_iff (name ext : CString) :
    checkExtension platform name ext = true ↔
      name.bytes ≠ [] ∧ ext.bytes ≠ [] ∧
        checkNameEncoding platform 1 name = true ∧
          checkNameEncoding platform 2 ext = true ∧
            HasExtension name.bytes ext.bytes := by
  rw [← isCStr_iff, ← isCStr_iff, ← matchesExtension_iff]
  cases nameFilled : isCStr (some name) with
  | false => simp [checkExtension, nameFilled]
  | true =>
      cases extFilled : isCStr (some ext) with
      | false => simp [checkExtension, nameFilled, extFilled]
      | true =>
          cases found : strrchr 46 name.bytes with
          | none => simp [checkExtension, nameFilled, extFilled, found]
          | some part =>
              simp [checkExtension, nameFilled, extFilled, found]

/-- What the code accepts: the printable names whose characters are all of
one byte. -/
theorem checkLibname_iff
    (graphicClass : GraphicClass platform.iswgraph)
    (isName : name.bytes = utf8Bytes characters) :
    checkLibname platform name = true ↔
      IsLibname platform name characters ∧
        ∀ character ∈ characters, character.utf8Size = 1 := by
  have encoding := checkNameEncoding_iff graphicClass.zero isName
  have accepted : checkLibname platform name = true ↔
      isCStr (some name) = true ∧ checkNameEncoding platform 0 name = true ∧
        checkExtension platform name soExtension = true := by
    simp [checkLibname]
  rw [accepted, isCStr_iff, checkExtension_iff, encoding, encoding]
  constructor
  · rintro ⟨filled, ⟨single, graphic⟩, -, -, -, -, extension⟩
    exact ⟨⟨filled, graphic, extension⟩, single⟩
  · rintro ⟨⟨filled, graphic, extension⟩, single⟩
    exact ⟨filled, ⟨single, graphic⟩, filled, by decide, ⟨single, graphic⟩,
      checkNameEncoding_soExtension graphicClass 2, extension⟩

end Check

/--
For every name in UTF-8: the check is right exactly when all characters are of
one byte, or the name is not that of a library anyway.
-/
theorem checkLibname_right_iff
    (platform : Platform) (name : CString) (characters : List Char)
    (graphicClass : GraphicClass platform.iswgraph)
    (isName : name.bytes = utf8Bytes characters) :
    (checkLibname platform name = true ↔
        IsLibname platform name characters) ↔
      (∀ character ∈ characters, character.utf8Size = 1) ∨
        (∃ character ∈ characters,
          platform.iswgraph character.val = false) ∨
        ¬ HasExtension name.bytes soExtension.bytes := by
  rw [checkLibname_iff graphicClass isName, and_iff_left_iff_imp]
  constructor
  · intro right
    by_contra wrong
    simp only [not_or, not_exists, not_and, Bool.not_eq_false,
      Classical.not_not] at wrong
    rcases wrong with ⟨multiple, graphic, extension⟩
    exact multiple
      (right ⟨extension.ne_nil, graphic, extension⟩)
  · rintro (single | ⟨character, member, notGraphic⟩ | noExtension) isLibname
    · exact single
    · have graphic := isLibname.graphic character member
      rw [notGraphic] at graphic
      cases graphic
    · exact absurd isLibname.extension noExtension

/-- ASCII and the Cyrillic letters are graphic. -/
def cyrillic : Platform where
  iswgraph := fun code =>
    (33 ≤ code && code ≤ 126) || (1024 ≤ code && code ≤ 1279)
  garbage := fun _ _ => 0

theorem cyrillic_graphicClass : GraphicClass cyrillic.iswgraph where
  zero := by decide
  ascii := by
    intro code lower upper
    simp [cyrillic, lower, upper]

/-- A name in upper case, with two dots. -/
def upperCase : CString := ⟨str "libz.1.SO", by decide⟩

theorem upperCase_right_iff :
    (checkLibname cyrillic upperCase = true ↔
        IsLibname cyrillic upperCase "libz.1.SO".toList) ↔
      (∀ character ∈ "libz.1.SO".toList, character.utf8Size = 1) ∨
        (∃ character ∈ "libz.1.SO".toList,
          cyrillic.iswgraph character.val = false) ∨
        ¬ HasExtension upperCase.bytes soExtension.bytes :=
  checkLibname_right_iff cyrillic upperCase "libz.1.SO".toList
    cyrillic_graphicClass (by decide)

/-- The letter `be` of two bytes, and the extension. -/
def twoBytes : CString := ⟨[208, 177, 46, 115, 111], by decide⟩

/-- The name is printable and is not accepted. -/
theorem twoBytes_not_right :
    twoBytes.bytes = utf8Bytes [Char.ofNat 1073, '.', 's', 'o'] ∧
      ¬ (checkLibname cyrillic twoBytes = true ↔
        IsLibname cyrillic twoBytes [Char.ofNat 1073, '.', 's', 'o']) := by
  have isName : twoBytes.bytes =
      utf8Bytes [Char.ofNat 1073, '.', 's', 'o'] := by decide
  refine ⟨isName, fun right => ?_⟩
  have isLibname : IsLibname cyrillic twoBytes
      [Char.ofNat 1073, '.', 's', 'o'] :=
    { filled := by decide
      graphic := List.all_eq_true.mp (by decide)
      extension := ⟨str ".so",
        ⟨[208, 177], str "so", by decide, by decide, by decide⟩, rfl⟩ }
  rw [checkLibname_iff cyrillic_graphicClass isName] at right
  have single := (right.mpr isLibname).2
  exact absurd (single (Char.ofNat 1073) List.mem_cons_self) (by decide)

end ServerUtils.Loader.LibraryName
