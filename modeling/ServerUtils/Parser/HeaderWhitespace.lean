import ServerUtils.Parser.RequestAcceptance

/-!
# A header line without the space after its colon

The header loop takes the value of a line from the second byte after its first
colon, whatever the byte in between is.  Writing `key:value` for `key: value`
therefore changes no cut of the request and still drops a byte, which is now
the first byte of the value.
-/

namespace ServerUtils.Parser.HeaderWhitespace

open ServerUtils.Foundation.Search
open ServerUtils.Parser.StdString
open ServerUtils.Parser.AST
open ServerUtils.Parser.Request
open ServerUtils.Parser.RequestAcceptance

def spacedLine (key value : Bytes) : Bytes :=
  key ++ str ": " ++ value

def compactLine (key value : Bytes) : Bytes :=
  key ++ str ":" ++ value

/-- The bytes of a request with the given lines in its header block. -/
def requestBytes
    (firstLine : Bytes) (lines : List Bytes) (body : Bytes) : Bytes :=
  firstLine ++ CRLF ++ (CRLF.intercalate lines ++ CRLFCRLF ++ body)

/--
The input is accepted, and `key: value` is a line of its header block after
`earlier` and before `later`; it is not the last line.
-/
structure HasSpacedHeader
    (input firstLine : Bytes) (earlier : List Bytes) (key value : Bytes)
    (later : List Bytes) (body : Bytes) (tree : ASTNode) : Prop where
  accepted : parseHTTPRequest input = .ok tree
  cuts : ∃ rest block,
    FirstCut CRLF input firstLine rest ∧ FirstCut CRLFCRLF rest block body ∧
      splitOn CRLF block = earlier ++ spacedLine key value :: later
  notLast : later ≠ []
  keyNoColon : (58 : UInt8) ∉ key
  valueNonempty : value ≠ []
  valueNoSpace : value.head? ≠ some 32

/-- The request with the line written as `key:value`. -/
def compactRequest
    (firstLine : Bytes) (earlier : List Bytes) (key value : Bytes)
    (later : List Bytes) (body : Bytes) : Bytes :=
  requestBytes firstLine (earlier ++ compactLine key value :: later) body

/-! ## The cuts of the compact request -/

/-- A cut around `colon, space` is one around the colon alone. -/
theorem firstCut_compact
    {pattern start text before after : Bytes} (nonempty : pattern ≠ [])
    (noColon : (58 : UInt8) ∉ pattern) (noSpace : (32 : UInt8) ∉ pattern)
    (cut : FirstCut pattern (start ++ 58 :: 32 :: text)
      (start ++ 58 :: 32 :: before) after) :
    FirstCut pattern (start ++ 58 :: text) (start ++ 58 :: before) after := by
  rcases (firstCut_append_cons_iff nonempty noColon).mp cut with
    ⟨absent, afterColon⟩
  have afterSpace : FirstCut pattern text before after := by
    rw [← List.nil_append (32 :: text),
      ← List.nil_append (32 :: before)] at afterColon
    exact ((firstCut_append_cons_iff nonempty noSpace).mp afterColon).2
  exact (firstCut_append_cons_iff nonempty noColon).mpr ⟨absent, afterSpace⟩

theorem spacedLine_eq (key value : Bytes) :
    spacedLine key value = key ++ 58 :: 32 :: value := by
  simp only [spacedLine, List.append_assoc]
  rfl

theorem compactLine_eq (key value : Bytes) :
    compactLine key value = key ++ 58 :: value := by
  simp only [compactLine, List.append_assoc]
  rfl

/-- The block of some lines, opened in the middle of one of them. -/
theorem exists_intercalate_split (earlier later : List Bytes) :
    ∃ start finish, ∀ left right : Bytes,
      CRLF.intercalate (earlier ++ (left ++ right) :: later) =
        start ++ left ++ (right ++ finish) := by
  induction earlier with
  | nil =>
      cases later with
      | nil => exact ⟨[], [], by simp⟩
      | cons next later =>
          refine ⟨[], CRLF ++ CRLF.intercalate (next :: later), ?_⟩
          intro left right
          rw [List.nil_append,
            List.intercalate_cons_of_ne_nil (List.cons_ne_nil _ _)]
          simp only [List.nil_append, List.append_assoc]
  | cons line earlier ih =>
      rcases ih with ⟨start, finish, split⟩
      refine ⟨line ++ CRLF ++ start, finish, fun left right => ?_⟩
      rw [List.cons_append, List.intercalate_cons_of_ne_nil (by simp),
        split]
      simp only [List.append_assoc]

theorem blockCut_compact
    {earlier later : List Bytes} {key value body : Bytes}
    (cut : FirstCut CRLFCRLF
      (CRLF.intercalate (earlier ++ spacedLine key value :: later) ++
        CRLFCRLF ++ body)
      (CRLF.intercalate (earlier ++ spacedLine key value :: later)) body) :
    FirstCut CRLFCRLF
      (CRLF.intercalate (earlier ++ compactLine key value :: later) ++
        CRLFCRLF ++ body)
      (CRLF.intercalate (earlier ++ compactLine key value :: later))
      body := by
  rcases exists_intercalate_split earlier later with ⟨start, finish, split⟩
  rw [spacedLine_eq, split] at cut
  rw [compactLine_eq, split]
  have opened : ∀ tail : Bytes,
      start ++ key ++ (58 :: tail ++ finish) ++ CRLFCRLF ++ body =
        start ++ key ++ 58 :: (tail ++ finish ++ CRLFCRLF ++ body) := by
    simp
  rw [opened] at cut ⊢
  exact firstCut_compact (by decide) (by decide) (by decide) cut

theorem lines_compact
    {earlier later : List Bytes} {key value block : Bytes}
    (notLast : later ≠ [])
    (lines : splitOn CRLF block =
      earlier ++ spacedLine key value :: later) :
    splitOn CRLF
        (CRLF.intercalate (earlier ++ compactLine key value :: later)) =
      earlier ++ compactLine key value :: later := by
  refine splitOn_exchange (by decide) notLast (fun rest cut => ?_) lines
  rw [spacedLine_eq] at cut
  rw [compactLine_eq]
  have opened : ∀ tail : Bytes,
      key ++ 58 :: tail ++ CRLF ++ rest =
        key ++ 58 :: (tail ++ CRLF ++ rest) := by
    simp
  rw [opened] at cut ⊢
  exact firstCut_compact (by decide) (by decide) (by decide) cut

/-- The header block of the compact request. -/
def compactBlock
    (earlier : List Bytes) (key value : Bytes) (later : List Bytes) : Bytes :=
  CRLF.intercalate (earlier ++ compactLine key value :: later)

/-- The compact request has the same cuts, around the compact block. -/
theorem cuts_compactRequest
    {input firstLine rest block key value body : Bytes}
    {earlier later : List Bytes} (notLast : later ≠ [])
    (lineCut : FirstCut CRLF input firstLine rest)
    (blockCut : FirstCut CRLFCRLF rest block body)
    (lines : splitOn CRLF block =
      earlier ++ spacedLine key value :: later) :
    FirstCut CRLF (compactRequest firstLine earlier key value later body)
        firstLine (compactBlock earlier key value later ++ CRLFCRLF ++ body) ∧
      FirstCut CRLFCRLF
          (compactBlock earlier key value later ++ CRLFCRLF ++ body)
          (compactBlock earlier key value later) body ∧
        splitOn CRLF (compactBlock earlier key value later) =
          earlier ++ compactLine key value :: later := by
  have joined := intercalate_splitOn (by decide : CRLF ≠ []) block
  rw [lines] at joined
  rw [lineCut.glue] at lineCut
  rw [blockCut.glue, ← joined] at blockCut
  exact ⟨lineCut.replace_after _, blockCut_compact blockCut,
    lines_compact notLast lines⟩

/-! ## What the parser records -/

theorem dropLast_append_cons
    {earlier later : List Bytes} (notLast : later ≠ []) (line : Bytes) :
    (earlier ++ line :: later).dropLast =
      earlier ++ line :: later.dropLast := by
  rw [List.dropLast_append_of_ne_nil (by simp),
    List.dropLast_cons_of_ne_nil notLast]

/-- The value of the spaced line is recorded whole. -/
theorem headers_of_spacedLine
    {earlier later : List Bytes} {key value : Bytes}
    {headers : List (Bytes × Bytes)}
    (notLast : later ≠ []) (keyNoColon : (58 : UInt8) ∉ key)
    (recorded : HeaderLines
      (earlier ++ spacedLine key value :: later).dropLast headers) :
    ∃ before after, headers = before ++ (key, value) :: after ∧
      HeaderLines earlier before ∧ HeaderLines later.dropLast after := by
  rw [dropLast_append_cons notLast, headerLines_append_iff] at recorded
  rcases recorded with ⟨before, tail, rfl, left, right⟩
  rw [spacedLine_eq, headerLines_cons_of_colon keyNoColon] at right
  rcases right with ⟨separator, value', after, same, rfl, right⟩
  rcases List.cons.inj same with ⟨rfl, rfl⟩
  exact ⟨before, after, rfl, left, right⟩

/-- The value of the compact line is recorded without its first byte. -/
theorem headerLines_compactLine
    {earlier later : List Bytes} {key value : Bytes}
    {before after : List (Bytes × Bytes)}
    (notLast : later ≠ []) (keyNoColon : (58 : UInt8) ∉ key)
    (valueNonempty : value ≠ [])
    (left : HeaderLines earlier before)
    (right : HeaderLines later.dropLast after) :
    HeaderLines (earlier ++ compactLine key value :: later).dropLast
      (before ++ (key, value.tail) :: after) := by
  rcases List.exists_cons_of_ne_nil valueNonempty with ⟨first, rest, rfl⟩
  rw [dropLast_append_cons notLast, headerLines_append_iff, compactLine_eq]
  exact ⟨before, (key, rest) :: after, rfl, left, .record keyNoColon right⟩

/-- The two requests never have the same parts. -/
theorem parts_ne_of_compactRequest
    {input firstLine key value body : Bytes} {earlier later : List Bytes}
    {tree : ASTNode}
    (header : HasSpacedHeader input firstLine earlier key value later body
      tree)
    {firstLine' rest' block' firstLine'' rest'' block'' : Bytes}
    {parts parts' : RequestParts}
    (accepts : Accepts input firstLine' rest' block' parts)
    (compact : Accepts
      (compactRequest firstLine earlier key value later body)
      firstLine'' rest'' block'' parts') :
    parts' ≠ parts := by
  rcases header.cuts with ⟨rest, block, lineCut, blockCut, lines⟩
  rcases cuts_compactRequest header.notLast lineCut blockCut lines with
    ⟨lineCut', blockCut', lines'⟩
  rcases accepts.lineCut.unique lineCut with ⟨rfl, rfl⟩
  rcases accepts.blockCut.unique blockCut with ⟨rfl, -⟩
  rcases compact.lineCut.unique lineCut' with ⟨rfl, rfl⟩
  rcases compact.blockCut.unique blockCut' with ⟨rfl, -⟩
  have recorded := accepts.headers
  have recorded' := compact.headers
  rw [lines] at recorded
  rw [lines'] at recorded'
  rcases headers_of_spacedLine header.notLast header.keyNoColon recorded with
    ⟨before, after, isHeaders, left, right⟩
  have isHeaders' := recorded'.unique
    (headerLines_compactLine header.notLast header.keyNoColon
      header.valueNonempty left right)
  rintro rfl
  rw [isHeaders] at isHeaders'
  have sameTail := List.append_cancel_left isHeaders'
  have sameValue := (Prod.mk.inj (List.cons.inj sameTail).1).2
  have sameLength := congrArg List.length sameValue
  have positive := List.length_pos_of_ne_nil header.valueNonempty
  rw [List.length_tail] at sameLength
  omega

/--
Whatever accepted request and whatever line that is not the last: writing the
line without the space never yields the same tree.
-/
theorem compactHeader_changes_parse
    (input firstLine : Bytes) (earlier : List Bytes) (key value : Bytes)
    (later : List Bytes) (body : Bytes) (tree : ASTNode)
    (header : HasSpacedHeader input firstLine earlier key value later body
      tree) :
    parseHTTPRequest
      (compactRequest firstLine earlier key value later body) ≠ .ok tree := by
  intro accepted
  rcases parseHTTPRequest_eq_ok_iff.mp header.accepted with
    ⟨firstLine', rest', block', parts, accepts, rfl⟩
  rcases parseHTTPRequest_eq_ok_iff.mp accepted with
    ⟨firstLine'', rest'', block'', parts', compact, sameTree⟩
  exact parts_ne_of_compactRequest header accepts compact
    (RequestParts.tree_injective sameTree.symm)

/-! ## A request whose length check fails after the change -/

def postLines : List Bytes :=
  [spacedLine (str "Content-Length") (str "12"), str "Host: h"]

def postBody : Bytes := str "hello, world"

def postRequest : Bytes :=
  requestBytes (str "POST / H") postLines postBody

def postTree : ASTNode :=
  RequestParts.tree
    ⟨str "POST", str "/", str "H", [(str "Content-Length", str "12")],
      postBody⟩

theorem postRequest_hasSpacedHeader :
    HasSpacedHeader postRequest (str "POST / H") []
      (str "Content-Length") (str "12") [str "Host: h"] postBody
      postTree where
  accepted := by decide +kernel
  cuts :=
    ⟨CRLF.intercalate postLines ++ CRLFCRLF ++ postBody,
      CRLF.intercalate postLines, by decide +kernel, by decide +kernel,
      splitOn_intercalate (by decide) (by decide +kernel)⟩
  notLast := by decide
  keyNoColon := by decide
  valueNonempty := by decide
  valueNoSpace := by decide

def compactPostRequest : Bytes :=
  compactRequest (str "POST / H") [] (str "Content-Length") (str "12")
    [str "Host: h"] postBody

theorem postRequest_changes_parse :
    parseHTTPRequest compactPostRequest ≠ .ok postTree :=
  compactHeader_changes_parse _ _ _ _ _ _ _ _ postRequest_hasSpacedHeader

/-- The compact line states the length 2 instead of 12. -/
theorem compactPostRequest_rejected :
    HasSpacedHeader postRequest (str "POST / H") []
        (str "Content-Length") (str "12") [str "Host: h"] postBody
        postTree ∧
      parseHTTPRequest compactPostRequest =
        .error (.runtimeError "HTTP Parse ERROR: Content-Length") :=
  ⟨postRequest_hasSpacedHeader, by decide +kernel⟩

end ServerUtils.Parser.HeaderWhitespace
