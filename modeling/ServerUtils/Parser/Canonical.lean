import ServerUtils.Parser.RequestRoundTrip

/-!
# The trees that the parser returns

Which trees come out of `parseHTTPRequest` is said without its input: the
parts must be representable.  Each such tree has a canonical request, which
parses to it.  The canonical request writes the headers in order and ends the
header block with a line that the header loop does not read, so that none of
them is lost.
-/

namespace ServerUtils.Parser.Canonical

open ServerUtils.Foundation.Search
open ServerUtils.Parser.StdString
open ServerUtils.Parser.AST
open ServerUtils.Parser.Request
open ServerUtils.Parser.RequestAcceptance
open ServerUtils.Parser.RequestRoundTrip

/-- The parts which a request can have. -/
structure Representable (parts : RequestParts) : Prop where
  allowed : parts.method ∈ methods
  urlNonempty : parts.url ≠ []
  urlNoSpace : (32 : UInt8) ∉ parts.url
  versionOk : VersionOk parts.version
  oneLine : ¬ CRLF <:+: firstLine parts
  keyNoColon : ∀ header ∈ parts.headers, (58 : UInt8) ∉ header.1
  keyOneLine : ∀ header ∈ parts.headers, ¬ CRLF <:+: header.1
  valueOneLine : ∀ header ∈ parts.headers, ¬ CRLF <:+: header.2
  contentLength : ContentLengthHolds parts.headers parts.body

/-- The line which ends the header block; the header loop stops at it. -/
def lastLine : Bytes := str "-"

/-- The lines of the canonical header block. -/
def lines (parts : RequestParts) : List Bytes :=
  parts.headers.map headerLine ++ [lastLine]

/-- The canonical request with the given parts. -/
def canonical (parts : RequestParts) : Bytes :=
  firstLine parts ++ CRLF ++
    (CRLF.intercalate (lines parts) ++ CRLFCRLF ++ parts.body)

/-! ## Blocks of lines -/

theorem unbordered_CRLF : Unbordered CRLF := by
  intro shift inside positive
  have isOne : shift = 1 := by
    rw [CRLF_length] at inside
    omega
  rw [isOne]
  decide

/-- A line without a CRLF does not start one when a CR follows it. -/
theorem not_CRLF_prefix
    {line : Bytes} (filled : line ≠ []) (oneLine : ¬ CRLF <:+: line)
    (rest : Bytes) : ¬ CRLF <+: line ++ 13 :: rest := by
  rintro ⟨later, equal⟩
  cases line with
  | nil => exact filled rfl
  | cons first line =>
      cases line with
      | nil =>
          change 13 :: 10 :: later = first :: 13 :: rest at equal
          have impossible := (List.cons.inj (List.cons.inj equal).2).1
          exact absurd impossible (by decide)
      | cons second line =>
          change 13 :: 10 :: later = first :: second :: (line ++ 13 :: rest)
            at equal
          simp only [List.cons.injEq] at equal
          rcases equal with ⟨rfl, rfl, _⟩
          exact oneLine ⟨[], line, rfl⟩

/-- The blank line is not found inside a line. -/
theorem firstCut_past_line
    {line rest block body : Bytes} (oneLine : ¬ CRLF <:+: line)
    (cut : FirstCut CRLFCRLF (13 :: rest) block body) :
    FirstCut CRLFCRLF (line ++ 13 :: rest) (line ++ block) body := by
  induction line with
  | nil => exact cut
  | cons first line ih =>
      have shorter : ¬ CRLF <:+: line := fun occurs =>
        oneLine (occurs.trans (List.suffix_cons first line).isInfix)
      refine (ih shorter).cons fun isHere => ?_
      have startsCRLF : CRLF <+: CRLFCRLF := ⟨CRLF, rfl⟩
      exact not_CRLF_prefix (List.cons_ne_nil first line) oneLine rest
        (startsCRLF.trans isHere)

/-- A CR follows the first line of a block. -/
theorem exists_after_line (line : Bytes) (rest : List Bytes) (body : Bytes) :
    ∃ tail, CRLF.intercalate (line :: rest) ++ CRLFCRLF ++ body =
      line ++ 13 :: tail := by
  cases rest with
  | nil =>
      refine ⟨[10, 13, 10] ++ body, ?_⟩
      rw [List.intercalate_singleton, List.append_assoc]
      rfl
  | cons next rest =>
      refine ⟨10 :: (CRLF.intercalate (next :: rest) ++ CRLFCRLF ++ body), ?_⟩
      rw [List.intercalate_cons_of_ne_nil (List.cons_ne_nil _ _)]
      simp only [List.append_assoc]
      rfl

/-- The first CRLFCRLF behind a block of non-empty lines ends the block. -/
theorem firstCut_lines
    {lines : List Bytes} (nonempty : lines ≠ [])
    (filled : ∀ line ∈ lines, line ≠ [])
    (oneLine : ∀ line ∈ lines, ¬ CRLF <:+: line) (body : Bytes) :
    FirstCut CRLFCRLF (CRLF.intercalate lines ++ CRLFCRLF ++ body)
      (CRLF.intercalate lines) body := by
  induction lines with
  | nil => exact absurd rfl nonempty
  | cons line rest ih =>
      have lineOne := oneLine line List.mem_cons_self
      cases rest with
      | nil =>
          rw [List.intercalate_singleton, List.append_assoc]
          have cut := firstCut_past_line lineOne
            (FirstCut.here CRLFCRLF body)
          rwa [List.append_nil] at cut
      | cons next rest =>
          have remaining := ih (List.cons_ne_nil _ _)
            (fun line member => filled line (List.mem_cons_of_mem _ member))
            (fun line member => oneLine line (List.mem_cons_of_mem _ member))
          -- no blank line before the next line, which is not empty
          have notBlank : ¬ CRLFCRLF <+: 13 :: 10 ::
              (CRLF.intercalate (next :: rest) ++ CRLFCRLF ++ body) := by
            rintro ⟨later, equal⟩
            change 13 :: 10 :: (CRLF ++ later) = _ at equal
            simp only [List.cons.injEq, true_and] at equal
            rcases exists_after_line next rest body with ⟨tail, shape⟩
            rw [shape] at equal
            exact not_CRLF_prefix (filled next (by simp))
              (oneLine next (by simp)) tail ⟨later, equal⟩
          have notLF : ¬ CRLFCRLF <+: 10 ::
              (CRLF.intercalate (next :: rest) ++ CRLFCRLF ++ body) := by
            rintro ⟨later, equal⟩
            exact absurd (List.cons.inj equal).1 (by decide)
          have moved := firstCut_past_line lineOne
            ((remaining.cons notLF).cons notBlank)
          rw [List.intercalate_cons_of_ne_nil (List.cons_ne_nil _ _)]
          simp only [List.append_assoc, CRLF_append] at moved ⊢
          exact moved

/-! ## The canonical request -/

section Canonical

variable {parts : RequestParts}

/-- A header is one line if its key and its value are. -/
theorem headerLine_oneLine
    {header : Bytes × Bytes}
    (key : ¬ CRLF <:+: header.1) (value : ¬ CRLF <:+: header.2) :
    ¬ CRLF <:+: headerLine header := by
  have shape : headerLine header =
      header.1 ++ 58 :: ([] ++ 32 :: header.2) := by
    simp [headerLine]
    rfl
  rw [shape, infix_append_cons_iff (by decide) (by decide),
    infix_append_cons_iff (by decide) (by decide)]
  rintro (inKey | inGap | inValue)
  · exact key inKey
  · exact absurd (List.infix_nil.mp inGap) (by decide)
  · exact value inValue

theorem lines_filled : ∀ line ∈ lines parts, line ≠ [] := by
  rw [lines, List.forall_mem_append, List.forall_mem_singleton]
  refine ⟨?_, by decide⟩
  intro line isLine
  rcases List.mem_map.mp isLine with ⟨header, _, rfl⟩
  simp [headerLine, str]

theorem lines_oneLine (representable : Representable parts) :
    ∀ line ∈ lines parts, ¬ CRLF <:+: line := by
  rw [lines, List.forall_mem_append, List.forall_mem_singleton]
  refine ⟨?_, by decide⟩
  intro line isLine
  rcases List.mem_map.mp isLine with ⟨header, isHeader, rfl⟩
  exact headerLine_oneLine (representable.keyOneLine header isHeader)
    (representable.valueOneLine header isHeader)

/-- The canonical request is accepted with all its parts. -/
theorem accepts_canonical (representable : Representable parts) :
    Accepts (canonical parts) (firstLine parts)
      (CRLF.intercalate (lines parts) ++ CRLFCRLF ++ parts.body)
      (CRLF.intercalate (lines parts)) parts where
  lineCut := FirstCut.of_unbordered unbordered_CRLF representable.oneLine _
  fields :=
    { glue := rfl
      allowed := representable.allowed
      urlNonempty := representable.urlNonempty
      urlNoSpace := representable.urlNoSpace
      versionOk := representable.versionOk }
  blockCut := by
    apply firstCut_lines
    · exact List.append_ne_nil_of_right_ne_nil _ (List.cons_ne_nil _ _)
    · exact lines_filled
    · exact lines_oneLine representable
  headers := by
    have pieces : splitOn CRLF (CRLF.intercalate (lines parts)) =
        lines parts := by
      apply splitOn_intercalate_of_absent unbordered_CRLF (by decide)
      · exact List.append_ne_nil_of_right_ne_nil _ (List.cons_ne_nil _ _)
      · exact lines_oneLine representable
    rw [pieces, lines, List.dropLast_concat]
    exact headerLines_map representable.keyNoColon
  contentLength := representable.contentLength

end Canonical

/-! ## What is returned is representable -/

/-- What is recorded from single lines has no colon in its keys and no CRLF
in keys and values. -/
theorem headers_of_headerLines
    {lines : List Bytes} {headers : List (Bytes × Bytes)}
    (recorded : HeaderLines lines headers)
    (oneLine : ∀ line ∈ lines, ¬ CRLF <:+: line) :
    ∀ header ∈ headers,
      (58 : UInt8) ∉ header.1 ∧ ¬ CRLF <:+: header.1 ∧
        ¬ CRLF <:+: header.2 := by
  induction recorded with
  | nil => exact List.forall_mem_nil _
  | skip noColon rest ih =>
      exact ih fun line isLine => oneLine line (List.mem_cons_of_mem _ isLine)
  | @record key separator value lines headers noColon rest ih =>
      have lineOne := oneLine _ List.mem_cons_self
      rw [List.forall_mem_cons]
      refine ⟨⟨noColon, ?_, ?_⟩, ?_⟩
      · intro inKey
        exact lineOne (inKey.trans (List.prefix_append _ _).isInfix)
      · intro inValue
        apply lineOne
        refine inValue.trans (List.IsSuffix.isInfix ?_)
        exact ⟨key ++ [58, separator], by simp⟩
      · exact ih fun line isLine =>
          oneLine line (List.mem_cons_of_mem _ isLine)

theorem representable_of_accepts
    {input line rest block : Bytes} {parts : RequestParts}
    (accepts : Accepts input line rest block parts) :
    Representable parts := by
  have recorded := headers_of_headerLines accepts.headers
    fun line isLine => absent_of_mem_splitOn (by decide)
      (List.mem_of_mem_dropLast isLine)
  have oneLine := accepts.lineCut.absent_before (by decide)
  rw [accepts.fields.glue] at oneLine
  exact
    { allowed := accepts.fields.allowed
      urlNonempty := accepts.fields.urlNonempty
      urlNoSpace := accepts.fields.urlNoSpace
      versionOk := accepts.fields.versionOk
      oneLine := oneLine
      keyNoColon := fun header isHeader => (recorded header isHeader).1
      keyOneLine := fun header isHeader => (recorded header isHeader).2.1
      valueOneLine := fun header isHeader => (recorded header isHeader).2.2
      contentLength := accepts.contentLength }

theorem parseHTTPRequest_canonical
    {parts : RequestParts} (representable : Representable parts) :
    parseHTTPRequest (canonical parts) = .ok parts.tree :=
  parseHTTPRequest_eq_ok_iff.mpr
    ⟨_, _, _, parts, accepts_canonical representable, rfl⟩

/-- Only trees of representable parts are returned. -/
theorem exists_representable_of_ok
    {input : Bytes} {tree : ASTNode} (ok : parseHTTPRequest input = .ok tree) :
    ∃ parts, Representable parts ∧ tree = parts.tree := by
  rcases parseHTTPRequest_eq_ok_iff.mp ok with
    ⟨line, rest, block, parts, accepts, rfl⟩
  exact ⟨parts, representable_of_accepts accepts, rfl⟩

/--
The trees which the parser returns are exactly those of representable parts,
and the parts are representable exactly when their canonical request parses to
their tree.
-/
theorem parser_image :
    (∀ tree, (∃ input, parseHTTPRequest input = .ok tree) ↔
      ∃ parts, Representable parts ∧ tree = parts.tree) ∧
    ∀ parts, Representable parts ↔
      parseHTTPRequest (canonical parts) = .ok parts.tree := by
  constructor
  · intro tree
    constructor
    · rintro ⟨input, ok⟩
      exact exists_representable_of_ok ok
    · rintro ⟨parts, representable, rfl⟩
      exact ⟨canonical parts, parseHTTPRequest_canonical representable⟩
  · intro parts
    constructor
    · exact parseHTTPRequest_canonical
    · intro ok
      rcases exists_representable_of_ok ok with ⟨other, representable, equal⟩
      rw [RequestParts.tree_injective equal]
      exact representable

end ServerUtils.Parser.Canonical
