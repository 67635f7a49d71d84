import ServerUtils.Parser.RequestAcceptance

/-!
# Serialising a request and parsing it back

`serialize` writes a request with one CRLF after every header line and one
more after the last.  Parsing the result always succeeds on well-formed
parts, and recovers every part but the headers: the header loop stops at the
last line of the block, since the block is cut before the CRLF that ends that
line.  The last header is therefore never recorded.
-/

namespace ServerUtils.Parser.RequestRoundTrip

open ServerUtils.Foundation.Search
open ServerUtils.Parser.StdString
open ServerUtils.Parser.AST
open ServerUtils.Parser.Request
open ServerUtils.Parser.RequestAcceptance

/-- No byte of the text is CR or LF. -/
def SingleLine (text : Bytes) : Prop :=
  (13 : UInt8) ∉ text ∧ (10 : UInt8) ∉ text

instance (text : Bytes) : Decidable (SingleLine text) :=
  inferInstanceAs (Decidable (_ ∧ _))

/-- The line of a header, without its CRLF. -/
def headerLine (header : Bytes × Bytes) : Bytes :=
  header.1 ++ str ": " ++ header.2

/-- The bytes of a request. -/
def serialize (parts : RequestParts) : Bytes :=
  parts.method ++ str " " ++ parts.url ++ str " " ++ parts.version ++ CRLF ++
    (parts.headers.map fun header => headerLine header ++ CRLF).flatten ++
    CRLF ++ parts.body

/-- Requests which every field of can be written down unambiguously. -/
structure WellFormed (parts : RequestParts) : Prop where
  methodAllowed : parts.method ∈ methods
  urlNonempty : parts.url ≠ []
  urlNoSpace : (32 : UInt8) ∉ parts.url
  urlSingleLine : SingleLine parts.url
  versionH : parts.version.head? = some 72
  versionSingleLine : SingleLine parts.version
  headersNonempty : parts.headers ≠ []
  keyNonempty : ∀ header ∈ parts.headers, header.1 ≠ []
  keyNoColon : ∀ header ∈ parts.headers, (58 : UInt8) ∉ header.1
  keySingleLine : ∀ header ∈ parts.headers, SingleLine header.1
  valueSingleLine : ∀ header ∈ parts.headers, SingleLine header.2
  lengthStated : ∀ header ∈ parts.headers,
    header.1 = str "Content-Length" →
      header.2 = numeral parts.body.length ∧
        (parts.body.length : Int) ≤ intMax

/-- The tree shows exactly the parts, under the names of the source. -/
structure Shows (tree : ASTNode) (parts : RequestParts) : Prop where
  method : tree.child? (str "method") =
    some (.withLeaf (str "method") parts.method)
  url : tree.child? (str "url") = some (.withLeaf (str "url") parts.url)
  version : tree.child? (str "version") =
    some (.withLeaf (str "version") parts.version)
  headers : tree.child? (str "headers") = some (headersTree parts.headers)
  body : tree.child? (str "body") = some (.withLeaf (str "body") parts.body)

/-- Parsing the serialised parts succeeds and shows them again. -/
def RoundTrips (parts : RequestParts) : Prop :=
  ∃ tree, parseHTTPRequest (serialize parts) = .ok tree ∧ Shows tree parts

/-! ## The serialised request as cuts -/

theorem CRLF_append (text : Bytes) : CRLF ++ text = 13 :: 10 :: text := rfl

/-- Writing a CRLF after every line is joining the lines and one more CRLF. -/
theorem flatten_lines
    {lines : List Bytes} (nonempty : lines ≠ []) :
    (lines.map fun line => line ++ CRLF).flatten =
      CRLF.intercalate lines ++ CRLF := by
  induction lines with
  | nil => exact absurd rfl nonempty
  | cons line rest ih =>
      cases rest with
      | nil => simp
      | cons next rest =>
          rw [List.map_cons, List.flatten_cons, ih (List.cons_ne_nil _ _),
            List.intercalate_cons_of_ne_nil (List.cons_ne_nil _ _)]
          simp only [List.append_assoc]

/-- The request line of the parts. -/
def firstLine (parts : RequestParts) : Bytes :=
  parts.method ++ str " " ++ parts.url ++ str " " ++ parts.version

/-- The header block of the parts, as the parser cuts it. -/
def block (parts : RequestParts) : Bytes :=
  CRLF.intercalate (parts.headers.map headerLine)

theorem serialize_eq
    {parts : RequestParts} (nonempty : parts.headers ≠ []) :
    serialize parts =
      firstLine parts ++ CRLF ++
        (block parts ++ CRLFCRLF ++ parts.body) := by
  have lineNonempty : parts.headers.map headerLine ≠ [] := by
    simpa using nonempty
  have lines := flatten_lines lineNonempty
  rw [List.map_map] at lines
  have split : CRLFCRLF = CRLF ++ CRLF := by decide
  calc
    serialize parts =
        firstLine parts ++ CRLF ++
          ((parts.headers.map
            ((fun line => line ++ CRLF) ∘ headerLine)).flatten ++
              CRLF ++ parts.body) := by
      simp only [serialize, firstLine, List.append_assoc]
      rfl
    _ = _ := by
      rw [lines, split, block]
      simp only [List.append_assoc]

/-- A blank line right after a CRLF needs a CR to start the next line. -/
theorem not_blank_of_head
    {text : Bytes} (notCR : text.head? ≠ some 13) :
    ¬ CRLFCRLF <+: 13 :: 10 :: text := by
  rintro ⟨later, equal⟩
  change 13 :: 10 :: 13 :: 10 :: later = 13 :: 10 :: text at equal
  simp only [List.cons.injEq, true_and] at equal
  exact notCR (equal ▸ rfl)

theorem head?_intercalate_cons
    {line : Bytes} (filled : line ≠ []) (rest : List Bytes) (tail : Bytes) :
    (CRLF.intercalate (line :: rest) ++ tail).head? = line.head? := by
  cases line with
  | nil => exact absurd rfl filled
  | cons first line =>
      cases rest with
      | nil => simp
      | cons next rest =>
          rw [List.intercalate_cons_of_ne_nil (List.cons_ne_nil _ _)]
          simp

/--
The first CRLFCRLF after a block of non-empty lines is the one that ends the
last line.
-/
theorem firstCut_intercalate
    {lines : List Bytes} (nonempty : lines ≠ [])
    (filled : ∀ line ∈ lines, line ≠ [])
    (single : ∀ line ∈ lines, (13 : UInt8) ∉ line) (body : Bytes) :
    FirstCut CRLFCRLF (CRLF.intercalate lines ++ CRLFCRLF ++ body)
      (CRLF.intercalate lines) body := by
  induction lines with
  | nil => exact absurd rfl nonempty
  | cons line rest ih =>
      have lineSingle := single line List.mem_cons_self
      cases rest with
      | nil =>
          rw [List.intercalate_singleton]
          exact FirstCut.of_not_mem lineSingle [10, 13, 10] body
      | cons next rest =>
          have remaining := ih (List.cons_ne_nil _ _)
            (fun line member => filled line (List.mem_cons_of_mem _ member))
            (fun line member => single line (List.mem_cons_of_mem _ member))
          have nextFilled := filled next (by simp)
          have nextSingle := single next (by simp)
          have notBlank : ¬ CRLFCRLF <+: 13 :: 10 ::
              (CRLF.intercalate (next :: rest) ++ CRLFCRLF ++ body) := by
            apply not_blank_of_head
            rw [List.append_assoc, head?_intercalate_cons nextFilled]
            intro startsCR
            exact nextSingle (List.mem_of_mem_head? startsCR)
          have notLF : ¬ CRLFCRLF <+: 10 ::
              (CRLF.intercalate (next :: rest) ++ CRLFCRLF ++ body) := by
            rintro ⟨later, equal⟩
            exact absurd (List.cons.inj equal).1 (by decide)
          have moved : FirstCut (13 :: [10, 13, 10])
              (13 :: 10 ::
                (CRLF.intercalate (next :: rest) ++ CRLFCRLF ++ body))
              (13 :: 10 :: CRLF.intercalate (next :: rest)) body :=
            (remaining.cons notLF).cons notBlank
          have past := moved.append_left lineSingle
          rw [List.intercalate_cons_of_ne_nil (List.cons_ne_nil _ _)]
          simp only [List.append_assoc, CRLF_append] at past ⊢
          exact past

theorem carriageReturn_not_mem_headerLine
    {parts : RequestParts} (wellFormed : WellFormed parts)
    {header : Bytes × Bytes} (member : header ∈ parts.headers) :
    (13 : UInt8) ∉ headerLine header := by
  simp only [headerLine, List.mem_append, not_or]
  exact ⟨⟨(wellFormed.keySingleLine header member).1, by decide⟩,
    (wellFormed.valueSingleLine header member).1⟩

theorem carriageReturn_not_mem_firstLine
    {parts : RequestParts} (wellFormed : WellFormed parts) :
    (13 : UInt8) ∉ firstLine parts := by
  have methodSingle : (13 : UInt8) ∉ parts.method := by
    have allowed := wellFormed.methodAllowed
    simp only [methods, List.mem_cons, List.not_mem_nil, or_false] at allowed
    rcases allowed with equal | equal | equal | equal <;>
      rw [equal] <;> decide
  have space : (13 : UInt8) ∉ str " " := by decide
  simp only [firstLine, List.mem_append, not_or]
  exact ⟨⟨⟨⟨methodSingle, space⟩, wellFormed.urlSingleLine.1⟩, space⟩,
    wellFormed.versionSingleLine.1⟩

theorem headerLines_map
    {headers : List (Bytes × Bytes)}
    (noColon : ∀ header ∈ headers, (58 : UInt8) ∉ header.1) :
    HeaderLines (headers.map headerLine) headers := by
  induction headers with
  | nil => exact .nil
  | cons header rest ih =>
      have recorded : HeaderLines
          ((header.1 ++ 58 :: 32 :: header.2) :: rest.map headerLine)
          (header :: rest) :=
        .record (noColon header List.mem_cons_self)
          (ih fun other member =>
            noColon other (List.mem_cons_of_mem _ member))
      have sameLine :
          headerLine header = header.1 ++ 58 :: 32 :: header.2 := by
        simp only [headerLine, List.append_assoc]
        rfl
      rw [List.map_cons, sameLine]
      exact recorded

/--
The serialised request is accepted, with every part but the last header.
-/
theorem accepts_serialize
    {parts : RequestParts} (wellFormed : WellFormed parts) :
    Accepts (serialize parts) (firstLine parts)
      (block parts ++ CRLFCRLF ++ parts.body) (block parts)
      { parts with headers := parts.headers.dropLast } where
  lineCut := by
    rw [serialize_eq wellFormed.headersNonempty]
    exact FirstCut.of_not_mem
      (carriageReturn_not_mem_firstLine wellFormed) [10] _
  fields :=
    { glue := rfl
      allowed := wellFormed.methodAllowed
      urlNonempty := wellFormed.urlNonempty
      urlNoSpace := wellFormed.urlNoSpace
      versionOk := Or.inr wellFormed.versionH }
  blockCut := by
    apply firstCut_intercalate
    · simpa using wellFormed.headersNonempty
    · intro line member
      rcases List.mem_map.mp member with ⟨header, headerMember, rfl⟩
      simp [headerLine, wellFormed.keyNonempty header headerMember]
    · intro line member
      rcases List.mem_map.mp member with ⟨header, headerMember, rfl⟩
      exact carriageReturn_not_mem_headerLine wellFormed headerMember
  headers := by
    have lines :
        splitOn CRLF (block parts) = parts.headers.map headerLine := by
      apply splitOn_intercalate
      · simpa using wellFormed.headersNonempty
      · intro line member
        rcases List.mem_map.mp member with ⟨header, headerMember, rfl⟩
        exact carriageReturn_not_mem_headerLine wellFormed headerMember
    rw [lines, ← List.map_dropLast]
    exact headerLines_map fun header member =>
      wellFormed.keyNoColon header (List.mem_of_mem_dropLast member)
  contentLength := by
    intro value found
    have member := List.mem_of_mem_dropLast (mem_of_firstHeader found)
    rcases wellFormed.lengthStated _ member rfl with ⟨stated, bounded⟩
    simp only at stated
    rw [stated]
    exact ⟨parts.body.length, stoi_numeral bounded,
      (toSizeT_natCast bounded).symm⟩

theorem parseHTTPRequest_serialize
    {parts : RequestParts} (wellFormed : WellFormed parts) :
    parseHTTPRequest (serialize parts) =
      .ok { parts with headers := parts.headers.dropLast }.tree :=
  parseHTTPRequest_eq_ok_iff.mpr
    ⟨_, _, _, _, accepts_serialize wellFormed, rfl⟩

theorem not_shows_of_lost_header
    {parts : RequestParts} (nonempty : parts.headers ≠ []) :
    ¬ Shows { parts with headers := parts.headers.dropLast }.tree parts := by
  intro shows
  have recorded : (RequestParts.tree
      { parts with headers := parts.headers.dropLast }).child?
        (str "headers") = some (headersTree parts.headers.dropLast) := rfl
  have same := Option.some.inj (recorded.symm.trans shows.headers)
  have sameHeaders : parts.headers.dropLast = parts.headers :=
    headersTree_injective same
  have sameLength := congrArg List.length sameHeaders
  have positive := List.length_pos_of_ne_nil nonempty
  rw [List.length_dropLast] at sameLength
  omega

theorem not_roundTrips
    {parts : RequestParts} (wellFormed : WellFormed parts) :
    ¬ RoundTrips parts := by
  rintro ⟨tree, ok, shows⟩
  rw [parseHTTPRequest_serialize wellFormed] at ok
  cases ok
  exact not_shows_of_lost_header wellFormed.headersNonempty shows

/--
No well-formed request round-trips.  Parsing succeeds and returns every part
except that the last header of the block is missing.
-/
theorem serialize_loses_last_header
    (parts : RequestParts) (wellFormed : WellFormed parts) :
    parseHTTPRequest (serialize parts) =
        .ok { parts with headers := parts.headers.dropLast }.tree ∧
      ¬ RoundTrips parts :=
  ⟨parseHTTPRequest_serialize wellFormed, not_roundTrips wellFormed⟩

/-- A request with a body and two headers, the last of which is lost. -/
def postRequest : RequestParts where
  method := str "POST"
  url := str "/index.html"
  version := str "HTTP/1.1"
  headers :=
    [(str "Content-Length", str "2"), (str "Host", str "localhost")]
  body := str "ok"

theorem postRequest_wellFormed : WellFormed postRequest := by
  constructor <;> decide

theorem postRequest_loses_last_header :
    parseHTTPRequest (serialize postRequest) =
        .ok { postRequest with
          headers := [(str "Content-Length", str "2")] }.tree ∧
      ¬ RoundTrips postRequest :=
  serialize_loses_last_header postRequest postRequest_wellFormed

theorem postRequest_not_roundTrips :
    WellFormed postRequest ∧ ¬ RoundTrips postRequest :=
  ⟨postRequest_wellFormed, not_roundTrips postRequest_wellFormed⟩

end ServerUtils.Parser.RequestRoundTrip
