import ServerUtils.Parser.ContentLength

/-!
# Which exceptions leave the parser

The parser diagnoses a malformed request with throws of its own.  Two library
calls can throw as well: `substr`, on a header line that ends right after its
first colon, and `stoi`, on a recorded Content-Length.  The other `substr`
calls cut at a position which `find` returned and cannot fail.
-/

namespace ServerUtils.Parser.RequestErrors

open ServerUtils.Foundation.Search
open ServerUtils.Parser.StdString
open ServerUtils.Parser.AST
open ServerUtils.Parser.Request
open ServerUtils.Parser.RequestAcceptance
open ServerUtils.Parser.ContentLength

/-- The exceptions of the parser's explicit throws. -/
def parserErrors : List StdException :=
  [.invalidArgument "HTTP Parse ERROR: Request is empty",
    .invalidArgument "HTTP Parse ERROR: Expected '\\r\\n' in request",
    .invalidArgument
      "HTTP Parse ERROR: Expected separator 'space' at first line after METHOD on request",
    .runtimeError "HTTP Parse ERROR: Invalid HTTP method",
    .invalidArgument
      "HTTP Parse ERROR: Expected separator 'space' at first line after URL on request",
    .invalidArgument "HTTP Parse ERROR: Empty URL",
    .runtimeError "HTTP Parse ERROR: invalid field of HTTP version",
    .invalidArgument
      "HTTP Parse ERROR: Expected '\\r\\n\\r\\n' after field of HTTP-headers in request",
    .runtimeError "HTTP Parse ERROR: Content-Length"]

/-- The call returns, or throws one of the parser's own errors. -/
def Diagnosed {Value : Type} (result : Except StdException Value) : Prop :=
  (∃ value, result = .ok value) ∨
    ∃ exception ∈ parserErrors, result = .error exception

/-- The line ends right after its first colon. -/
def EndsAtColon (line : Bytes) : Prop :=
  ∃ key, (58 : UInt8) ∉ key ∧ line = key ++ [58]

/-- The request line is valid and `block` is cut off before a blank line. -/
def ReachesBlock (input block : Bytes) : Prop :=
  ∃ firstLine rest body method url version,
    FirstCut CRLF input firstLine rest ∧
      FirstLineFields firstLine method url version ∧
        FirstCut CRLFCRLF rest block body

/--
No line which the loop reads ends at its first colon, and the checked
Content-Length, if there is one, starts with an `int`.
-/
structure HarmlessBlock (block : Bytes) : Prop where
  lines : ∀ line ∈ (splitOn CRLF block).dropLast, ¬ EndsAtColon line
  contentLength : ∀ line, checkedLine (splitOn CRLF block) = some line →
    ReadsAsInt (line.drop (str "Content-Length: ").length)

/-- If the header block of the input is reached, it is harmless. -/
def HarmlessHeaders (input : Bytes) : Prop :=
  ∀ block, ReachesBlock input block → HarmlessBlock block

/-! ## Sequences of steps -/

theorem diagnosed_ok {Value : Type} (value : Value) :
    Diagnosed (.ok value) :=
  Or.inl ⟨value, rfl⟩

theorem diagnosed_error_iff
    {Value : Type} {exception : StdException} :
    Diagnosed (.error exception : Except StdException Value) ↔
      exception ∈ parserErrors := by
  simp [Diagnosed]

/-- A sequence is diagnosed when each step that is reached is. -/
theorem diagnosed_bind_iff
    {First Second : Type} {first : Except StdException First}
    {next : First → Except StdException Second} :
    Diagnosed (first >>= next) ↔
      Diagnosed first ∧
        ∀ value, first = .ok value → Diagnosed (next value) := by
  cases first with
  | error exception =>
      change Diagnosed (.error exception) ↔ _
      simp [diagnosed_error_iff]
  | ok value =>
      change Diagnosed (next value) ↔ _
      simp [diagnosed_ok]

/-! ## The stages before the headers -/

theorem cutFirstLine_diagnosed (input : Bytes) :
    Diagnosed (cutFirstLine input) := by
  rcases firstCut_or_absent CRLF input with ⟨before, after, cut⟩ | absent
  · rw [cutFirstLine_of_firstCut cut]
    exact diagnosed_ok _
  · rw [cutFirstLine, find_eq_none_iff.mpr absent]
    exact diagnosed_error_iff.mpr (by simp [parserErrors])

theorem cutMethod_diagnosed (firstLine : Bytes) :
    Diagnosed (cutMethod firstLine) := by
  rcases firstCut_or_absent (str " ") firstLine with
    ⟨before, after, cut⟩ | absent
  · rw [cutMethod_of_firstCut cut]
    split_ifs
    · exact diagnosed_error_iff.mpr (by simp [parserErrors])
    · exact diagnosed_ok _
  · rw [cutMethod, find_eq_none_iff.mpr absent]
    exact diagnosed_error_iff.mpr (by simp [parserErrors])

theorem cutUrl_diagnosed (firstLine : Bytes) :
    Diagnosed (cutUrl firstLine) := by
  rcases firstCut_or_absent (str " ") firstLine with
    ⟨before, after, cut⟩ | absent
  · rw [cutUrl_of_firstCut cut]
    split_ifs
    · exact diagnosed_error_iff.mpr (by simp [parserErrors])
    · exact diagnosed_ok _
  · rw [cutUrl, find_eq_none_iff.mpr absent]
    exact diagnosed_error_iff.mpr (by simp [parserErrors])

theorem checkVersion_diagnosed (version : Bytes) :
    Diagnosed (checkVersion version) := by
  rw [checkVersion]
  split_ifs
  · exact diagnosed_error_iff.mpr (by simp [parserErrors])
  · exact diagnosed_ok _

theorem cutHeaders_diagnosed (input : Bytes) :
    Diagnosed (cutHeaders input) := by
  rcases firstCut_or_absent CRLFCRLF input with
    ⟨before, after, cut⟩ | absent
  · rw [cutHeaders_of_firstCut cut]
    exact diagnosed_ok _
  · rw [cutHeaders, find_eq_none_iff.mpr absent]
    exact diagnosed_error_iff.mpr (by simp [parserErrors])

/-! ## The header loop -/

theorem addHeaderLine_of_endsAtColon
    {line : Bytes} (ends : EndsAtColon line) (node : ASTNode) :
    addHeaderLine line node =
      .error (.outOfRange "basic_string::substr") := by
  rcases ends with ⟨key, noColon, rfl⟩
  exact addHeaderLine_of_colon noColon [] node

theorem addHeaderLine_ok_of_not_endsAtColon
    {line : Bytes} (harmless : ¬ EndsAtColon line) (node : ASTNode) :
    ∃ result, addHeaderLine line node = .ok result := by
  by_cases colon : (58 : UInt8) ∈ line
  · rcases List.eq_append_cons_of_mem colon with
      ⟨key, rest, rfl, noColon⟩
    rw [addHeaderLine_of_colon noColon]
    cases rest with
    | nil => exact absurd ⟨key, noColon, rfl⟩ harmless
    | cons separator value => exact ⟨_, rfl⟩
  · exact ⟨node, addHeaderLine_skip colon node⟩

theorem outOfRange_not_mem_parserErrors (what : String) :
    StdException.outOfRange what ∉ parserErrors := by
  simp [parserErrors]

theorem headerLoop_diagnosed_iff
    {block : Bytes} {node : ASTNode} :
    Diagnosed (headerLoop block node) ↔
      ∀ line ∈ (splitOn CRLF block).dropLast, ¬ EndsAtColon line := by
  have nonempty : CRLF ≠ [] := by decide
  induction block using splitOn_induction nonempty generalizing node with
  | last block absent =>
      rw [headerLoop_of_absent absent, splitOn_of_absent absent]
      simp [diagnosed_ok]
  | cut block line rest isCut ih =>
      rw [headerLoop_of_firstCut isCut, isCut.splitOn_eq nonempty,
        List.dropLast_cons_of_ne_nil (splitOn_ne_nil CRLF rest),
        diagnosed_bind_iff, List.forall_mem_cons]
      by_cases ends : EndsAtColon line
      · rw [addHeaderLine_of_endsAtColon ends, diagnosed_error_iff]
        simp [ends, outOfRange_not_mem_parserErrors]
      · rcases addHeaderLine_ok_of_not_endsAtColon ends node with
          ⟨result, recorded⟩
        rw [recorded]
        simp [diagnosed_ok, ends, ih]

theorem exists_headerLines
    {lines : List Bytes} (harmless : ∀ line ∈ lines, ¬ EndsAtColon line) :
    ∃ headers, HeaderLines lines headers := by
  induction lines with
  | nil => exact ⟨[], .nil⟩
  | cons line lines ih =>
      rw [List.forall_mem_cons] at harmless
      rcases ih harmless.2 with ⟨headers, rest⟩
      by_cases colon : (58 : UInt8) ∈ line
      · rcases List.eq_append_cons_of_mem colon with
          ⟨key, tail, rfl, noColon⟩
        cases tail with
        | nil => exact absurd ⟨key, noColon, rfl⟩ harmless.1
        | cons separator value =>
            exact ⟨(key, value) :: headers, .record noColon rest⟩
      · exact ⟨headers, .skip colon rest⟩

/-! ## The Content-Length check -/

theorem stoi_diagnosed_iff (text : Bytes) :
    Diagnosed (stoi text) ↔ ReadsAsInt text := by
  rw [← stoi_succeeds_iff]
  constructor
  · rintro (succeeds | ⟨exception, member, failed⟩)
    · exact succeeds
    · rcases stoi_eq_error failed with rfl | rfl
      · exact absurd member (by simp [parserErrors])
      · exact absurd member (outOfRange_not_mem_parserErrors _)
  · exact Or.inl

theorem checkContentLength_diagnosed_iff
    {headers : List (Bytes × Bytes)} {body : Bytes} :
    Diagnosed (checkContentLength (headersTree headers) body) ↔
      ∀ value, firstHeader (str "Content-Length") headers = some value →
        ReadsAsInt value := by
  have first := find?_headersTree (str "Content-Length") headers
  rw [← first, checkContentLength]
  cases (headersTree headers).getChildren.find? fun node =>
      node.getType = str "Content-Length" with
  | none => simp [diagnosed_ok]
  | some node =>
      simp only [Option.map_some, Option.some.injEq, forall_eq',
        diagnosed_bind_iff, stoi_diagnosed_iff]
      apply and_iff_left
      intro contentLength _
      split_ifs
      · exact diagnosed_error_iff.mpr (by simp [parserErrors])
      · exact diagnosed_ok _

/-! ## The whole parser -/

theorem headerBlock_diagnosed_iff {block : Bytes} (body : Bytes) :
    (Diagnosed (headerLoop block (.new (str "headers"))) ∧
        ∀ node, headerLoop block (.new (str "headers")) = .ok node →
          Diagnosed (checkContentLength node body)) ↔
      HarmlessBlock block := by
  rw [headerLoop_diagnosed_iff]
  constructor
  · rintro ⟨lines, lengths⟩
    rcases exists_headerLines lines with ⟨headers, recorded⟩
    have loop : headerLoop block (.new (str "headers")) =
        .ok (headersTree headers) :=
      headerLoop_eq_ok_iff.mpr
        ⟨headers, recorded, (addHeaders_headers headers).symm⟩
    have values := checkContentLength_diagnosed_iff.mp (lengths _ loop)
    have first := firstHeader_contentLength recorded
    refine ⟨lines, fun line checked => values _ ?_⟩
    rw [first]
    exact congrArg (Option.map _) checked
  · rintro ⟨lines, lengths⟩
    refine ⟨lines, fun node loop => ?_⟩
    rcases headerLoop_eq_ok_iff.mp loop with ⟨headers, recorded, rfl⟩
    rw [addHeaders_headers, checkContentLength_diagnosed_iff]
    intro value found
    rw [firstHeader_contentLength recorded] at found
    rcases Option.map_eq_some_iff.mp found with ⟨line, checked, rfl⟩
    exact lengths line checked

/--
The parser returns or throws an error of its own exactly on the inputs whose
header block, if it is reached, is harmless.
-/
theorem parseHTTPRequest_diagnosed_iff (input : Bytes) :
    Diagnosed (parseHTTPRequest input) ↔ HarmlessHeaders input := by
  rw [parseHTTPRequest]
  split_ifs with empty
  · rw [List.isEmpty_iff] at empty
    subst empty
    refine iff_of_true (diagnosed_error_iff.mpr (by simp [parserErrors])) ?_
    rintro block ⟨firstLine, rest, body, method, url, version, lineCut, -⟩
    exact absurd lineCut.glue (by simp [CRLF, str])
  · simp only [diagnosed_bind_iff, Prod.forall]
    constructor
    · rintro ⟨-, afterLine⟩ block ⟨firstLine, rest, body, method, url,
        version, lineCut, fields, blockCut⟩
      have isMethod :
          cutMethod firstLine = .ok (method, url ++ str " " ++ version) :=
        cutMethod_eq_ok_iff.mpr ⟨by simp [fields.glue], fields.allowed⟩
      have isUrl :
          cutUrl (url ++ str " " ++ version) = .ok (url, version) :=
        cutUrl_eq_ok_iff.mpr ⟨rfl, fields.urlNonempty, fields.urlNoSpace⟩
      have afterMethod :=
        (afterLine firstLine rest (cutFirstLine_of_firstCut lineCut)).2
      have afterUrl := (afterMethod _ _ isMethod).2
      have afterVersion := (afterUrl _ _ isUrl).2
      have afterBlock :=
        (afterVersion () (checkVersion_eq_ok_iff.mpr fields.versionOk)).2
      have inBlock := afterBlock _ _ (cutHeaders_of_firstCut blockCut)
      exact (headerBlock_diagnosed_iff body).mp
        ⟨inBlock.1, fun node loop => (inBlock.2 node loop).1⟩
    · intro harmless
      refine ⟨cutFirstLine_diagnosed _, fun firstLine rest isLine => ?_⟩
      refine ⟨cutMethod_diagnosed _, fun method afterMethod isMethod => ?_⟩
      refine ⟨cutUrl_diagnosed _, fun url version isUrl => ?_⟩
      refine ⟨checkVersion_diagnosed _, fun _ isVersion => ?_⟩
      refine ⟨cutHeaders_diagnosed _, fun block body isBlock => ?_⟩
      rcases cutMethod_eq_ok_iff.mp isMethod with ⟨lineGlue, allowed⟩
      rcases cutUrl_eq_ok_iff.mp isUrl with ⟨urlGlue, nonempty, noSpace⟩
      have reached : ReachesBlock input block :=
        ⟨firstLine, rest, body, method, url, version,
          cutFirstLine_eq_ok_iff.mp isLine,
          { glue := by simp [lineGlue, urlGlue]
            allowed := allowed
            urlNonempty := nonempty
            urlNoSpace := noSpace
            versionOk := checkVersion_eq_ok_iff.mp isVersion },
          cutHeaders_eq_ok_iff.mp isBlock⟩
      have inBlock :=
        (headerBlock_diagnosed_iff body).mpr (harmless block reached)
      exact ⟨inBlock.1, fun node loop =>
        ⟨inBlock.2 node loop, fun _ _ => diagnosed_ok _⟩⟩

/-- A header line with a name and no value, before another line. -/
def emptyValueRequest : Bytes :=
  str "GET / HTTP/1.1\r\nHost:\r\nAccept: a\r\n\r\n"

/-- A recorded Content-Length that is not a number. -/
def wordLengthRequest : Bytes :=
  str "GET / HTTP/1.1\r\nContent-Length: two\r\nAccept: a\r\n\r\nok"

theorem library_exceptions_escape :
    (parseHTTPRequest emptyValueRequest =
        .error (.outOfRange "basic_string::substr") ∧
      ¬ Diagnosed (parseHTTPRequest emptyValueRequest)) ∧
    parseHTTPRequest wordLengthRequest =
        .error (.invalidArgument "stoi") ∧
      ¬ Diagnosed (parseHTTPRequest wordLengthRequest) := by
  have substrThrows : parseHTTPRequest emptyValueRequest =
      .error (.outOfRange "basic_string::substr") := by
    decide +kernel
  have stoiThrows : parseHTTPRequest wordLengthRequest =
      .error (.invalidArgument "stoi") := by
    decide +kernel
  refine ⟨⟨substrThrows, ?_⟩, stoiThrows, ?_⟩
  · rw [substrThrows, diagnosed_error_iff]
    exact outOfRange_not_mem_parserErrors _
  · rw [stoiThrows, diagnosed_error_iff]
    simp [parserErrors]

end ServerUtils.Parser.RequestErrors
