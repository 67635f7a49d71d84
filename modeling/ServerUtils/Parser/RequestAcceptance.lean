import ServerUtils.Parser.Request

/-!
# What the request parser accepts

One relation, `Accepts`, says for which inputs `parseHTTPRequest` returns and
what it returns.  It is stated with first cuts and with the list of lines of
the header block, and mentions neither positions nor loops.  The theorem
`parseHTTPRequest_eq_ok_iff` connects it with the function; the results about
the parser are proved from the relation.
-/

namespace ServerUtils.Parser.RequestAcceptance

open ServerUtils.Foundation.Search
open ServerUtils.Parser.StdString
open ServerUtils.Parser.AST
open ServerUtils.Parser.Request

/-! ## The parts of a request and their tree -/

/-- The data which the parser extracts from a request. -/
structure RequestParts where
  method : Bytes
  url : Bytes
  version : Bytes
  headers : List (Bytes × Bytes)
  body : Bytes

/-- The node of one recorded header. -/
def headerNode (header : Bytes × Bytes) : ASTNode :=
  .withLeaf header.1 header.2

/-- A node `headers` with one child for each recorded header. -/
def headersTree (headers : List (Bytes × Bytes)) : ASTNode where
  type := str "headers"
  children := headers.map headerNode

/-- The tree which the parser builds from the parts. -/
def RequestParts.tree (parts : RequestParts) : ASTNode where
  type := str "request"
  children :=
    [.withLeaf (str "method") parts.method,
      .withLeaf (str "url") parts.url,
      .withLeaf (str "version") parts.version,
      headersTree parts.headers,
      .withLeaf (str "body") parts.body]

theorem headerNode_injective : Function.Injective headerNode := by
  intro left right equal
  rcases ASTNode.withLeaf_inj.mp equal with ⟨sameKey, sameValue⟩
  exact Prod.ext sameKey sameValue

theorem headersTree_injective : Function.Injective headersTree := by
  intro left right equal
  exact List.map_injective_iff.mpr headerNode_injective
    (congrArg ASTNode.getChildren equal)

/-- The tree determines all parts. -/
theorem RequestParts.tree_injective : Function.Injective RequestParts.tree := by
  intro left right equal
  have nodes := congrArg ASTNode.getChildren equal
  simp only [tree, ASTNode.getChildren, List.cons.injEq, and_true,
    ASTNode.withLeaf_inj, true_and] at nodes
  rcases nodes with ⟨sameMethod, sameUrl, sameVersion, sameHeaders, sameBody⟩
  cases left
  cases right
  simp only [RequestParts.mk.injEq]
  exact ⟨sameMethod, sameUrl, sameVersion,
    headersTree_injective sameHeaders, sameBody⟩

/-- The four methods which the source allows. -/
def methods : List Bytes :=
  [str "GET", str "POST", str "PUT", str "DELETE"]

theorem invalidMethod_eq_false_iff {method : Bytes} :
    invalidMethod method = false ↔ method ∈ methods := by
  constructor
  · intro valid
    simp only [invalidMethod, Bool.or_eq_false_iff, Bool.and_eq_false_iff,
      bne_eq_false_iff_eq] at valid
    simp only [methods, List.mem_cons, List.not_mem_nil, or_false]
    tauto
  · intro member
    simp only [methods, List.mem_cons, List.not_mem_nil, or_false] at member
    rcases member with rfl | rfl | rfl | rfl <;> decide

theorem space_not_mem_of_mem_methods
    {method : Bytes} (member : method ∈ methods) :
    (32 : UInt8) ∉ method := by
  simp only [methods, List.mem_cons, List.not_mem_nil, or_false] at member
  rcases member with rfl | rfl | rfl | rfl <;> decide

/-- The version field: empty, or starting with `H`. -/
def VersionOk (version : Bytes) : Prop :=
  version = [] ∨ version.head? = some 72

/-- How the fields of a request line are laid out and what they satisfy. -/
structure FirstLineFields
    (line method url version : Bytes) : Prop where
  glue : line = method ++ str " " ++ url ++ str " " ++ version
  allowed : method ∈ methods
  urlNonempty : url ≠ []
  urlNoSpace : (32 : UInt8) ∉ url
  versionOk : VersionOk version

/--
What the header loop records from a list of lines: a line without a colon is
skipped, any other line must have at least one byte after its first colon,
and that byte is dropped.
-/
inductive HeaderLines : List Bytes → List (Bytes × Bytes) → Prop where
  | nil : HeaderLines [] []
  | skip {line : Bytes} {lines headers}
      (noColon : (58 : UInt8) ∉ line)
      (rest : HeaderLines lines headers) :
      HeaderLines (line :: lines) headers
  | record {key : Bytes} {separator : UInt8} {value : Bytes} {lines headers}
      (noColon : (58 : UInt8) ∉ key)
      (rest : HeaderLines lines headers) :
      HeaderLines ((key ++ 58 :: separator :: value) :: lines)
        ((key, value) :: headers)

theorem firstCut_colon
    {key : Bytes} (noColon : (58 : UInt8) ∉ key) (rest : Bytes) :
    FirstCut (str ":") (key ++ 58 :: rest) key rest :=
  firstCut_singleton_iff.mpr ⟨rfl, noColon⟩

/-- A line with a colon is recorded as key and value around its first one. -/
theorem headerLines_cons_of_colon
    {key rest : Bytes} {lines : List Bytes}
    {headers : List (Bytes × Bytes)} (noColon : (58 : UInt8) ∉ key) :
    HeaderLines ((key ++ 58 :: rest) :: lines) headers ↔
      ∃ separator value others, rest = separator :: value ∧
        headers = (key, value) :: others ∧ HeaderLines lines others := by
  constructor
  · intro recorded
    generalize equal : key ++ 58 :: rest = line at recorded
    cases recorded with
    | skip absent _ => exact absurd (by simp [← equal]) absent
    | @record key' separator value _ others noColon' remaining =>
        have left := firstCut_colon noColon rest
        have right := firstCut_colon noColon' (separator :: value)
        rw [← equal] at right
        rcases left.unique right with ⟨rfl, rfl⟩
        exact ⟨separator, value, others, rfl, rfl, remaining⟩
  · rintro ⟨separator, value, others, rfl, rfl, remaining⟩
    exact .record noColon remaining

theorem headerLines_append_iff
    {lines lines' : List Bytes} {headers : List (Bytes × Bytes)} :
    HeaderLines (lines ++ lines') headers ↔
      ∃ first second, headers = first ++ second ∧
        HeaderLines lines first ∧ HeaderLines lines' second := by
  constructor
  · intro recorded
    induction lines generalizing headers with
    | nil => exact ⟨[], headers, rfl, .nil, recorded⟩
    | cons line lines ih =>
        rw [List.cons_append] at recorded
        cases recorded with
        | skip noColon rest =>
            rcases ih rest with ⟨first, second, rfl, left, right⟩
            exact ⟨first, second, rfl, .skip noColon left, right⟩
        | @record key separator value _ others noColon rest =>
            rcases ih rest with ⟨first, second, rfl, left, right⟩
            exact ⟨(key, value) :: first, second, rfl,
              .record noColon left, right⟩
  · rintro ⟨first, second, rfl, left, right⟩
    induction left with
    | nil => exact right
    | skip noColon _ ih => exact .skip noColon ih
    | record noColon _ ih => exact .record noColon ih

/-- The lines determine what is recorded. -/
theorem HeaderLines.unique
    {lines : List Bytes} {headers headers' : List (Bytes × Bytes)}
    (left : HeaderLines lines headers) (right : HeaderLines lines headers') :
    headers = headers' := by
  induction left generalizing headers' with
  | nil =>
      cases right
      rfl
  | skip noColon rest ih =>
      cases right with
      | skip _ rest' => exact ih rest'
      | record _ rest' => exact absurd (by simp) noColon
  | record noColon rest ih =>
      rcases (headerLines_cons_of_colon noColon).mp right with
        ⟨separator', value', others, same, rfl, rest'⟩
      rw [ih rest', (List.cons.inj same).2]

/-- The first recorded header of a given name. -/
def firstHeader (name : Bytes) (headers : List (Bytes × Bytes)) :
    Option Bytes :=
  (headers.find? fun header => header.1 = name).map Prod.snd

theorem mem_of_firstHeader
    {name value : Bytes} {headers : List (Bytes × Bytes)}
    (found : firstHeader name headers = some value) :
    (name, value) ∈ headers := by
  rcases Option.map_eq_some_iff.mp found with ⟨header, isFirst, rfl⟩
  have sameName : header.1 = name := by
    simpa using List.find?_some isFirst
  rw [← sameName]
  exact List.mem_of_find?_eq_some isFirst

/-- There is a first header of a name iff there is any. -/
theorem exists_firstHeader_iff
    {name : Bytes} {headers : List (Bytes × Bytes)} :
    (∃ value, firstHeader name headers = some value) ↔
      ∃ header ∈ headers, header.1 = name := by
  constructor
  · rintro ⟨value, found⟩
    exact ⟨(name, value), mem_of_firstHeader found, rfl⟩
  · rintro ⟨header, member, rfl⟩
    cases found : firstHeader header.1 headers with
    | some value => exact ⟨value, rfl⟩
    | none =>
        have absent := List.find?_eq_none.mp (Option.map_eq_none_iff.mp found)
        exact absurd (by simp) (absent header member)

/-- The only condition which the parser puts on the body. -/
def ContentLengthHolds
    (headers : List (Bytes × Bytes)) (body : Bytes) : Prop :=
  ∀ value, firstHeader (str "Content-Length") headers = some value →
    ∃ contentLength,
      stoi value = .ok contentLength ∧
        body.length = toSizeT contentLength

/--
The input is accepted with the given parts.  `block` is the header block as
the parser cuts it; its last line is not among the lines it reads.
-/
structure Accepts
    (input firstLine rest block : Bytes) (parts : RequestParts) : Prop where
  lineCut : FirstCut CRLF input firstLine rest
  fields :
    FirstLineFields firstLine parts.method parts.url parts.version
  blockCut : FirstCut CRLFCRLF rest block parts.body
  headers : HeaderLines (splitOn CRLF block).dropLast parts.headers
  contentLength : ContentLengthHolds parts.headers parts.body

/-! ## One lemma for each stage -/

/-- The two `substr` calls around a found pattern return the two pieces. -/
theorem substr_of_firstCut
    {pattern text before after : Bytes}
    (cut : FirstCut pattern text before after) :
    substr text 0 (some before.length) = .ok before ∧
      substr text (before.length + pattern.length) npos = .ok after := by
  constructor
  · rw [cut.glue, List.append_assoc]
    exact substr_before before (pattern ++ after)
  · rw [cut.glue, ← List.length_append]
    exact substr_after (before ++ pattern) after

theorem cutFirstLine_of_firstCut
    {input firstLine rest : Bytes}
    (cut : FirstCut CRLF input firstLine rest) :
    cutFirstLine input = .ok (firstLine, rest) := by
  rcases substr_of_firstCut cut with ⟨left, right⟩
  change substr input (firstLine.length + 2) npos = .ok rest at right
  simp only [cutFirstLine, cut.find_eq, left, right]
  rfl

theorem cutFirstLine_eq_ok_iff {input firstLine rest : Bytes} :
    cutFirstLine input = .ok (firstLine, rest) ↔
      FirstCut CRLF input firstLine rest := by
  constructor
  · intro ok
    rcases firstCut_or_absent CRLF input with ⟨before, after, cut⟩ | absent
    · rw [cutFirstLine_of_firstCut cut] at ok
      cases ok
      exact cut
    · rw [cutFirstLine, find_eq_none_iff.mpr absent] at ok
      cases ok
  · exact cutFirstLine_of_firstCut

theorem cutHeaders_of_firstCut
    {input block body : Bytes}
    (cut : FirstCut CRLFCRLF input block body) :
    cutHeaders input = .ok (block, body) := by
  rcases substr_of_firstCut cut with ⟨left, right⟩
  change substr input (block.length + 4) npos = .ok body at right
  simp only [cutHeaders, cut.find_eq, left, right]
  rfl

theorem cutHeaders_eq_ok_iff {input block body : Bytes} :
    cutHeaders input = .ok (block, body) ↔
      FirstCut CRLFCRLF input block body := by
  constructor
  · intro ok
    rcases firstCut_or_absent CRLFCRLF input with
      ⟨before, after, cut⟩ | absent
    · rw [cutHeaders_of_firstCut cut] at ok
      cases ok
      exact cut
    · rw [cutHeaders, find_eq_none_iff.mpr absent] at ok
      cases ok
  · exact cutHeaders_of_firstCut

theorem cutMethod_of_firstCut
    {firstLine method rest : Bytes}
    (cut : FirstCut (str " ") firstLine method rest) :
    cutMethod firstLine =
      if invalidMethod method then
        .error (.runtimeError "HTTP Parse ERROR: Invalid HTTP method")
      else .ok (method, rest) := by
  rcases substr_of_firstCut cut with ⟨left, right⟩
  change substr firstLine (method.length + 1) npos = .ok rest at right
  simp only [cutMethod, cut.find_eq, left, right]
  rfl

theorem cutMethod_eq_ok_iff {firstLine method rest : Bytes} :
    cutMethod firstLine = .ok (method, rest) ↔
      firstLine = method ++ str " " ++ rest ∧ method ∈ methods := by
  constructor
  · intro ok
    rcases firstCut_or_absent (str " ") firstLine with
      ⟨before, after, cut⟩ | absent
    · rw [cutMethod_of_firstCut cut] at ok
      split_ifs at ok with invalid
      cases ok
      exact ⟨cut.glue,
        invalidMethod_eq_false_iff.mp (Bool.not_eq_true _ ▸ invalid)⟩
    · rw [cutMethod, find_eq_none_iff.mpr absent] at ok
      cases ok
  · rintro ⟨rfl, allowed⟩
    have cut : FirstCut (str " ") (method ++ str " " ++ rest) method rest :=
      FirstCut.of_not_mem (space_not_mem_of_mem_methods allowed) [] rest
    rw [cutMethod_of_firstCut cut, invalidMethod_eq_false_iff.mpr allowed]
    rfl

theorem cutUrl_of_firstCut
    {firstLine url version : Bytes}
    (cut : FirstCut (str " ") firstLine url version) :
    cutUrl firstLine =
      if url.isEmpty then
        .error (.invalidArgument "HTTP Parse ERROR: Empty URL")
      else .ok (url, version) := by
  rcases substr_of_firstCut cut with ⟨left, right⟩
  change substr firstLine (url.length + 1) npos = .ok version at right
  simp only [cutUrl, cut.find_eq, left, right]
  rfl

theorem cutUrl_eq_ok_iff {firstLine url version : Bytes} :
    cutUrl firstLine = .ok (url, version) ↔
      firstLine = url ++ str " " ++ version ∧
        url ≠ [] ∧ (32 : UInt8) ∉ url := by
  constructor
  · intro ok
    rcases firstCut_or_absent (str " ") firstLine with
      ⟨before, after, cut⟩ | absent
    · rw [cutUrl_of_firstCut cut] at ok
      split_ifs at ok with empty
      cases ok
      refine ⟨cut.glue, ?_, (firstCut_singleton_iff.mp cut).2⟩
      intro isNil
      exact empty (List.isEmpty_iff.mpr isNil)
    · rw [cutUrl, find_eq_none_iff.mpr absent] at ok
      cases ok
  · rintro ⟨rfl, nonempty, noSpace⟩
    have cut : FirstCut (str " ") (url ++ str " " ++ version) url version :=
      FirstCut.of_not_mem noSpace [] version
    rw [cutUrl_of_firstCut cut, if_neg]
    exact fun empty => nonempty (List.isEmpty_iff.mp empty)

theorem checkVersion_eq_ok_iff {version : Bytes} :
    checkVersion version = .ok () ↔ VersionOk version := by
  cases version with
  | nil => simp [checkVersion, VersionOk]
  | cons first rest =>
      by_cases isH : first = 72 <;> simp [checkVersion, VersionOk, isH]

/-! ## The header loop -/

/-- A line without a colon leaves the headers unchanged. -/
theorem addHeaderLine_skip
    {line : Bytes} (noColon : (58 : UInt8) ∉ line) (node : ASTNode) :
    addHeaderLine line node = .ok node := by
  have absent : ¬ str ":" <:+: line := by
    intro occurs
    exact noColon (occurs.subset (by decide))
  rw [addHeaderLine, find_eq_none_iff.mpr absent]

/-- Any other line is cut at its first colon. -/
theorem addHeaderLine_of_colon
    {key : Bytes} (noColon : (58 : UInt8) ∉ key)
    (rest : Bytes) (node : ASTNode) :
    addHeaderLine (key ++ 58 :: rest) node =
      match rest with
      | [] => .error (.outOfRange "basic_string::substr")
      | _ :: value => .ok (node.addChild (.withLeaf key value)) := by
  have cut := firstCut_colon noColon rest
  rcases substr_of_firstCut cut with ⟨left, -⟩
  rw [addHeaderLine, cut.find_eq]
  cases rest with
  | nil =>
      have past : (key ++ [58]).length < key.length + 2 := by simp
      simp only [left, substr_past_end past]
      rfl
  | cons separator value =>
      have right :
          substr (key ++ 58 :: separator :: value) (key.length + 2) npos =
            .ok value := by
        simpa using substr_after (key ++ [58, separator]) value
      simp only [left, right]
      rfl

theorem addHeaderLine_eq_ok_iff
    {line : Bytes} {node result : ASTNode} :
    addHeaderLine line node = .ok result ↔
      ((58 : UInt8) ∉ line ∧ result = node) ∨
        ∃ key separator value, (58 : UInt8) ∉ key ∧
          line = key ++ 58 :: separator :: value ∧
            result = node.addChild (headerNode (key, value)) := by
  by_cases colon : (58 : UInt8) ∈ line
  · rcases (List.eq_append_cons_of_mem colon) with
      ⟨key, rest, rfl, noColon⟩
    rw [addHeaderLine_of_colon noColon]
    constructor
    · intro ok
      cases rest with
      | nil => cases ok
      | cons separator value =>
          cases ok
          exact Or.inr ⟨key, separator, value, noColon, rfl, rfl⟩
    · rintro (⟨absent, -⟩ | ⟨key', separator, value, noColon', equal, rfl⟩)
      · exact absurd colon absent
      · -- the two decompositions cut at the same first colon
        have left := firstCut_colon noColon rest
        have right := firstCut_colon noColon' (separator :: value)
        rw [← equal] at right
        rcases left.unique right with ⟨rfl, rfl⟩
        rfl
  · rw [addHeaderLine_skip colon]
    constructor
    · intro ok
      cases ok
      exact Or.inl ⟨colon, rfl⟩
    · rintro (⟨-, rfl⟩ | ⟨key, separator, value, -, rfl, -⟩)
      · rfl
      · exact absurd (by simp) colon

/-- Append the nodes of recorded headers to a node. -/
def addHeaders (node : ASTNode) (headers : List (Bytes × Bytes)) : ASTNode :=
  headers.foldl (fun node header => node.addChild (headerNode header)) node

theorem headerLoop_of_absent
    {block : Bytes} (absent : ¬ CRLF <:+: block) (node : ASTNode) :
    headerLoop block node = .ok node := by
  rw [headerLoop, find_eq_none_iff.mpr absent]
  split_ifs <;> rfl

theorem headerLoop_of_firstCut
    {block line rest : Bytes} (cut : FirstCut CRLF block line rest)
    (node : ASTNode) :
    headerLoop block node =
      (addHeaderLine line node >>= fun node => headerLoop rest node) := by
  rcases substr_of_firstCut cut with ⟨left, right⟩
  change substr block (line.length + 2) npos = .ok rest at right
  have nonempty : block.isEmpty = false := by
    rw [cut.glue]
    simp [CRLF, str]
  rw [headerLoop, nonempty, cut.find_eq]
  simp only [left, bind, Except.bind, Bool.false_eq_true, if_false]
  split
  · rename_i failed
    rw [right] at failed
    cases failed
  · rename_i found
    rw [right] at found
    cases found
    rfl

/-- The loop records exactly the headers of all lines but the last. -/
theorem headerLoop_eq_ok_iff
    {block : Bytes} {node result : ASTNode} :
    headerLoop block node = .ok result ↔
      ∃ headers,
        HeaderLines (splitOn CRLF block).dropLast headers ∧
          result = addHeaders node headers := by
  have nonempty : CRLF ≠ [] := by decide
  induction block using splitOn_induction nonempty generalizing node with
  | last block absent =>
      rw [headerLoop_of_absent absent, splitOn_of_absent absent]
      constructor
      · intro ok
        cases ok
        exact ⟨[], .nil, rfl⟩
      · rintro ⟨headers, lines, rfl⟩
        cases lines
        rfl
  | cut block line rest isCut ih =>
      rw [headerLoop_of_firstCut isCut, isCut.splitOn_eq nonempty,
        List.dropLast_cons_of_ne_nil (splitOn_ne_nil CRLF rest),
        bind_eq_ok_iff]
      constructor
      · rintro ⟨middle, recorded, remaining⟩
        rcases ih.mp remaining with ⟨headers, lines, rfl⟩
        rcases addHeaderLine_eq_ok_iff.mp recorded with
          ⟨noColon, rfl⟩ | ⟨key, separator, value, noColon, rfl, rfl⟩
        · exact ⟨headers, .skip noColon lines, rfl⟩
        · exact ⟨(key, value) :: headers, .record noColon lines, rfl⟩
      · rintro ⟨headers, lines, rfl⟩
        cases lines with
        | skip noColon lines =>
            exact ⟨node,
              addHeaderLine_eq_ok_iff.mpr (Or.inl ⟨noColon, rfl⟩),
              ih.mpr ⟨headers, lines, rfl⟩⟩
        | @record key separator value _ headers noColon lines =>
            exact ⟨node.addChild (headerNode (key, value)),
              addHeaderLine_eq_ok_iff.mpr
                (Or.inr ⟨key, separator, value, noColon, rfl, rfl⟩),
              ih.mpr ⟨headers, lines, rfl⟩⟩

theorem addHeaders_headers (headers : List (Bytes × Bytes)) :
    addHeaders (.new (str "headers")) headers = headersTree headers := by
  have general : ∀ (node : ASTNode),
      (addHeaders node headers).getType = node.getType ∧
        (addHeaders node headers).getChildren =
          node.getChildren ++ headers.map headerNode := by
    induction headers with
    | nil => simp [addHeaders]
    | cons header rest ih =>
        intro node
        have tail := ih (node.addChild (headerNode header))
        simpa [addHeaders] using tail
  have shape := general (.new (str "headers"))
  exact ASTNode.ext shape.1 shape.2

/-! ## The Content-Length check and the whole parser -/

theorem find?_headersTree
    (name : Bytes) (headers : List (Bytes × Bytes)) :
    ((headersTree headers).getChildren.find?
        fun node => node.getType = name).map
      (fun node => (node.getChildren.head?.map ASTNode.getType).getD []) =
      firstHeader name headers := by
  rw [headersTree, ASTNode.getChildren, List.find?_map, Option.map_map,
    firstHeader]
  rfl

theorem checkContentLength_eq_ok_iff
    {headers : List (Bytes × Bytes)} {body : Bytes} :
    checkContentLength (headersTree headers) body = .ok () ↔
      ContentLengthHolds headers body := by
  have first := find?_headersTree (str "Content-Length") headers
  rw [ContentLengthHolds, ← first, checkContentLength]
  cases (headersTree headers).getChildren.find? fun node =>
      node.getType = str "Content-Length" with
  | none => simp
  | some node =>
      simp only [Option.map_some, Option.some.injEq, forall_eq',
        bind_eq_ok_iff]
      apply exists_congr
      intro contentLength
      apply and_congr_right
      intro _
      split_ifs with differs
      · simp [differs]
      · simp only [not_not] at differs
        simp [differs, pure, Except.pure]

/-- The parser accepts exactly the inputs described by `Accepts`. -/
theorem parseHTTPRequest_eq_ok_iff {input : Bytes} {tree : ASTNode} :
    parseHTTPRequest input = .ok tree ↔
      ∃ firstLine rest block parts,
        Accepts input firstLine rest block parts ∧ tree = parts.tree := by
  constructor
  · intro ok
    rw [parseHTTPRequest] at ok
    split_ifs at ok with empty
    simp only [bind_eq_ok_iff, Prod.exists] at ok
    rcases ok with
      ⟨firstLine, rest, isLine, method, afterMethod, isMethod,
        url, version, isUrl, _, isVersion, block, body, isBlock,
        headersNode, isHeaders, _, isLength, isTree⟩
    rcases headerLoop_eq_ok_iff.mp isHeaders with ⟨headers, lines, rfl⟩
    rcases cutMethod_eq_ok_iff.mp isMethod with ⟨lineGlue, allowed⟩
    rcases cutUrl_eq_ok_iff.mp isUrl with ⟨urlGlue, nonempty, noSpace⟩
    rw [addHeaders_headers] at isLength isTree
    cases isTree
    refine ⟨firstLine, rest, block,
      ⟨method, url, version, headers, body⟩, ?_, rfl⟩
    exact
      { lineCut := cutFirstLine_eq_ok_iff.mp isLine
        fields :=
          { glue := by simp [lineGlue, urlGlue]
            allowed := allowed
            urlNonempty := nonempty
            urlNoSpace := noSpace
            versionOk := checkVersion_eq_ok_iff.mp isVersion }
        blockCut := cutHeaders_eq_ok_iff.mp isBlock
        headers := lines
        contentLength := checkContentLength_eq_ok_iff.mp isLength }
  · rintro ⟨firstLine, rest, block, parts, accepts, rfl⟩
    have nonempty : input.isEmpty = false := by
      rw [accepts.lineCut.glue]
      simp [CRLF, str]
    have isMethod :
        cutMethod firstLine =
          .ok (parts.method, parts.url ++ str " " ++ parts.version) :=
      cutMethod_eq_ok_iff.mpr
        ⟨by simp [accepts.fields.glue], accepts.fields.allowed⟩
    have isUrl :
        cutUrl (parts.url ++ str " " ++ parts.version) =
          .ok (parts.url, parts.version) :=
      cutUrl_eq_ok_iff.mpr
        ⟨rfl, accepts.fields.urlNonempty, accepts.fields.urlNoSpace⟩
    have isHeaders :
        headerLoop block (.new (str "headers")) =
          .ok (headersTree parts.headers) :=
      headerLoop_eq_ok_iff.mpr
        ⟨parts.headers, accepts.headers,
          (addHeaders_headers parts.headers).symm⟩
    rw [parseHTTPRequest, nonempty]
    simp only [Bool.false_eq_true, if_false,
      cutFirstLine_of_firstCut accepts.lineCut, isMethod, isUrl,
      checkVersion_eq_ok_iff.mpr accepts.fields.versionOk,
      cutHeaders_of_firstCut accepts.blockCut, isHeaders,
      checkContentLength_eq_ok_iff.mpr accepts.contentLength, bind,
      Except.bind, pure, Except.pure]
    rfl

end ServerUtils.Parser.RequestAcceptance
