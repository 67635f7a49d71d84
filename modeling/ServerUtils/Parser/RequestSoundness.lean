import ServerUtils.Parser.RequestAcceptance

/-!
# Soundness and framing of the request parser

Soundness: every returned tree is spelled out in the input.  The five
structural nodes carry the fields of the request line, the body and headers
which are read from distinct lines of the header block, in order.

Framing: where the header block ends.  The parser searches for CRLFCRLF after
the CRLF of the request line has been cut off.  When the request line is
followed by a blank line at once, that search starts in the middle of the
delimiter, and bytes after the blank line are read as headers or lost.
-/

namespace ServerUtils.Parser.RequestSoundness

open ServerUtils.Foundation.Search
open ServerUtils.Parser.StdString
open ServerUtils.Parser.AST
open ServerUtils.Parser.Request
open ServerUtils.Parser.RequestAcceptance

/--
The header is spelled out by the line: its key up to the first colon, one
byte which is dropped, and its value.
-/
def ReadFrom (line : Bytes) (header : Bytes × Bytes) : Prop :=
  (58 : UInt8) ∉ header.1 ∧
    ∃ separator, line = header.1 ++ 58 :: separator :: header.2

/-- The headers are read, in order, from distinct lines of a list. -/
def TakenFrom
    (lines : List Bytes) (headers : List (Bytes × Bytes)) : Prop :=
  ∃ taken, List.Sublist taken lines ∧
    List.Forall₂ ReadFrom taken headers

theorem takenFrom_of_headerLines
    {lines : List Bytes} {headers : List (Bytes × Bytes)}
    (recorded : HeaderLines lines headers) :
    TakenFrom lines headers := by
  induction recorded with
  | nil => exact ⟨[], .slnil, .nil⟩
  | skip noColon rest ih =>
      rcases ih with ⟨taken, sublist, read⟩
      exact ⟨taken, sublist.cons _, read⟩
  | @record key separator value lines headers noColon rest ih =>
      rcases ih with ⟨taken, sublist, read⟩
      exact ⟨(key ++ 58 :: separator :: value) :: taken,
        sublist.cons_cons _, .cons ⟨noColon, separator, rfl⟩ read⟩

theorem TakenFrom.mono
    {lines lines' : List Bytes} {headers : List (Bytes × Bytes)}
    (from_lines : TakenFrom lines headers)
    (sublist : List.Sublist lines lines') :
    TakenFrom lines' headers := by
  rcases from_lines with ⟨taken, inner, read⟩
  exact ⟨taken, inner.trans sublist, read⟩

/-- The lines of a header block: CRLF-free pieces joined by CRLF. -/
structure LinesOf (block : Bytes) (lines : List Bytes) : Prop where
  glue : CRLF.intercalate lines = block
  nonempty : lines ≠ []
  separate : ∀ line ∈ lines, ¬ CRLF <:+: line

theorem linesOf_splitOn (block : Bytes) :
    LinesOf block (splitOn CRLF block) where
  glue := intercalate_splitOn (by decide) block
  nonempty := splitOn_ne_nil CRLF block
  separate := fun _ member => absent_of_mem_splitOn (by decide) member

/-- What the input of a returned tree looks like. -/
structure SpelledOut
    (input : Bytes) (parts : RequestParts) (block : Bytes) : Prop where
  glue : input =
    parts.method ++ str " " ++ parts.url ++ str " " ++ parts.version ++
      CRLF ++ block ++ CRLFCRLF ++ parts.body
  allowed : parts.method ∈ methods
  urlNonempty : parts.url ≠ []
  urlNoSpace : (32 : UInt8) ∉ parts.url
  versionOk : parts.version = [] ∨ parts.version.head? = some 72
  oneLine : ¬ CRLF <:+:
    parts.method ++ str " " ++ parts.url ++ str " " ++ parts.version
  headersRead : ∃ lines, LinesOf block lines ∧ TakenFrom lines parts.headers

/-- Exactly one child carries the name, and `operator[]` returns it. -/
def UniqueChild (tree : ASTNode) (name : Bytes) : Prop :=
  ∃ child,
    tree.getChildren.filter (fun child => child.getType = name) = [child] ∧
      tree.child? name = some child

theorem spelledOut_of_accepts
    {input firstLine rest block : Bytes} {parts : RequestParts}
    (accepts : Accepts input firstLine rest block parts) :
    SpelledOut input parts block where
  glue := by
    rw [accepts.lineCut.glue, accepts.blockCut.glue, accepts.fields.glue]
    simp only [List.append_assoc]
  allowed := accepts.fields.allowed
  urlNonempty := accepts.fields.urlNonempty
  urlNoSpace := accepts.fields.urlNoSpace
  versionOk := accepts.fields.versionOk
  oneLine := by
    rw [← accepts.fields.glue]
    exact accepts.lineCut.absent_before (by decide)
  headersRead := by
    refine ⟨splitOn CRLF block, linesOf_splitOn block, ?_⟩
    exact (takenFrom_of_headerLines accepts.headers).mono
      (List.dropLast_sublist _)

/--
The labels of the structural nodes are fixed, so header names chosen by the
client cannot shadow them.
-/
theorem tree_uniqueChild
    (parts : RequestParts) {name : Bytes} (required : name ∈ requiredChildren) :
    UniqueChild parts.tree name := by
  simp only [requiredChildren, List.mem_cons, List.not_mem_nil,
    or_false] at required
  rcases required with rfl | rfl | rfl | rfl | rfl <;> exact ⟨_, rfl, rfl⟩

theorem tree_isASTValid (parts : RequestParts) :
    isASTValid parts.tree = true := by
  rfl

/--
Every tree which the parser returns is spelled out by its input, is valid,
and answers `operator[]` with the unique child for each structural name.
-/
theorem parseHTTPRequest_sound
    (input : Bytes) (tree : ASTNode)
    (accepted : parseHTTPRequest input = .ok tree) :
    ∃ parts block,
      tree = parts.tree ∧
        SpelledOut input parts block ∧
          isASTValid tree = true ∧
            ∀ name ∈ requiredChildren, UniqueChild tree name := by
  rcases parseHTTPRequest_eq_ok_iff.mp accepted with
    ⟨firstLine, rest, block, parts, accepts, rfl⟩
  exact ⟨parts, block, rfl, spelledOut_of_accepts accepts, tree_isASTValid parts,
    fun _ required => tree_uniqueChild parts required⟩

/-- A request without header lines whose body looks like headers. -/
def bareRequest : Bytes :=
  str "GET / HTTP/1.1\r\n\r\nkey: value\r\nmore\r\n\r\nbody"

def bareTree : ASTNode :=
  RequestParts.tree
    ⟨str "GET", str "/", str "HTTP/1.1", [(str "key", str "value")],
      str "body"⟩

theorem bareRequest_accepted :
    parseHTTPRequest bareRequest = .ok bareTree := by
  decide +kernel

theorem bareRequest_sound :
    ∃ parts block,
      bareTree = parts.tree ∧
        SpelledOut bareRequest parts block ∧
          isASTValid bareTree = true ∧
            ∀ name ∈ requiredChildren, UniqueChild bareTree name :=
  parseHTTPRequest_sound bareRequest bareTree bareRequest_accepted

/-! ## Where the header block ends -/

/--
The tree respects the first blank line of the input: the body is everything
after it, and every header comes from a line between the request line and it.
-/
def FramedAtBlankLine (input : Bytes) (tree : ASTNode) : Prop :=
  ∃ head body headers,
    FirstCut CRLFCRLF input head body ∧
      tree.child? (str "body") = some (.withLeaf (str "body") body) ∧
        tree.child? (str "headers") = some (headersTree headers) ∧
          TakenFrom (splitOn CRLF head).tail headers

/-- The request line is not followed by the blank line at once. -/
def HasHeaderLine (input : Bytes) : Prop :=
  find CRLF input ≠ find CRLFCRLF input

instance (input : Bytes) : Decidable (HasHeaderLine input) :=
  inferInstanceAs (Decidable (_ ≠ _))

/--
With a header line, cutting off the request line does not disturb the search
for the blank line.
-/
theorem firstCut_blankLine
    {input firstLine rest block body : Bytes}
    (lineCut : FirstCut CRLF input firstLine rest)
    (blockCut : FirstCut CRLFCRLF rest block body)
    (notBlank : ¬ CRLF <+: rest) :
    FirstCut CRLFCRLF input (firstLine ++ CRLF ++ block) body where
  glue := by
    rw [lineCut.glue, blockCut.glue]
    simp only [List.append_assoc]
  first := by
    intro earlier later equal
    have afterLine : firstLine.length ≤ earlier.length :=
      lineCut.first earlier (CRLF ++ later) (by
        rw [equal]
        simp only [List.append_assoc]
        rfl)
    have pieces :
        firstLine ++ (CRLF ++ rest) = earlier ++ (CRLFCRLF ++ later) := by
      rw [← List.append_assoc, ← lineCut.glue, equal, List.append_assoc]
    rcases List.append_eq_append_iff.mp pieces with
      ⟨gap, rfl, gapEqual⟩ | ⟨gap, rfl, gapEqual⟩
    · change 13 :: 10 :: rest = gap ++ 13 :: 10 :: 13 :: 10 :: later at gapEqual
      match gap with
      | [] =>
          simp only [List.nil_append, List.cons.injEq, true_and] at gapEqual
          exact absurd ⟨later, gapEqual.symm⟩ notBlank
      | [first] =>
          simp at gapEqual
      | first :: second :: gap =>
          simp only [List.cons_append, List.cons.injEq] at gapEqual
          rcases gapEqual with ⟨rfl, rfl, restEqual⟩
          have bound := blockCut.first gap later
            (by rw [restEqual, List.append_assoc]; rfl)
          simp only [List.length_append, List.length_cons, CRLF_length]
          omega
    · -- the request line is not longer than what precedes the blank line
      have empty : gap = [] := by
        apply List.eq_nil_of_length_eq_zero
        simp only [List.length_append] at afterLine
        omega
      subst empty
      simp only [List.nil_append] at gapEqual
      change 13 :: 10 :: 13 :: 10 :: later = 13 :: 10 :: rest at gapEqual
      simp only [List.cons.injEq, true_and] at gapEqual
      exact absurd ⟨later, gapEqual⟩ notBlank

/-- Without a header line, the first blank line starts at the first CRLF. -/
theorem firstCut_immediate
    {input firstLine more : Bytes}
    (lineCut : FirstCut CRLF input firstLine (CRLF ++ more)) :
    FirstCut CRLFCRLF input firstLine more where
  glue := by
    rw [lineCut.glue]
    simp only [List.append_assoc]
    rfl
  first := by
    intro earlier later equal
    apply lineCut.first earlier (CRLF ++ later)
    rw [equal]
    simp only [List.append_assoc]
    rfl

/-- An accepted input has a header line iff what follows its first CRLF does
not start with another one. -/
theorem hasHeaderLine_iff
    {input firstLine rest block : Bytes} {parts : RequestParts}
    (accepts : Accepts input firstLine rest block parts) :
    HasHeaderLine input ↔ ¬ CRLF <+: rest := by
  rw [HasHeaderLine, accepts.lineCut.find_eq]
  constructor
  · rintro distinct ⟨more, rfl⟩
    exact distinct (firstCut_immediate accepts.lineCut).find_eq.symm
  · intro notBlank equal
    rw [(firstCut_blankLine accepts.lineCut accepts.blockCut
      notBlank).find_eq] at equal
    simp [CRLF_length] at equal

theorem framed_of_hasHeaderLine
    {input firstLine rest block : Bytes} {parts : RequestParts}
    (accepts : Accepts input firstLine rest block parts)
    (notBlank : ¬ CRLF <+: rest) :
    FramedAtBlankLine input parts.tree := by
  have cut :=
    firstCut_blankLine accepts.lineCut accepts.blockCut notBlank
  have lineCut : FirstCut CRLF (firstLine ++ CRLF ++ rest) firstLine rest :=
    accepts.lineCut.glue ▸ accepts.lineCut
  refine ⟨firstLine ++ CRLF ++ block, parts.body, parts.headers, cut,
    rfl, rfl, ?_⟩
  rw [(lineCut.replace_after block).splitOn_eq (by decide), List.tail_cons]
  exact (takenFrom_of_headerLines accepts.headers).mono
    (List.dropLast_sublist _)

/-- Without a header line, at least two bytes after the blank line are lost. -/
theorem not_framed_of_blank
    {input firstLine more block : Bytes} {parts : RequestParts}
    (accepts : Accepts input firstLine (CRLF ++ more) block parts) :
    ¬ FramedAtBlankLine input parts.tree := by
  rintro ⟨head, body, headers, cut, isBody, -, -⟩
  have isMore :=
    (cut.unique (firstCut_immediate accepts.lineCut)).2
  have sameBody : parts.body = body := by
    have node : ASTNode.withLeaf (str "body") parts.body =
        .withLeaf (str "body") body := Option.some.inj isBody
    exact (ASTNode.withLeaf_inj.mp node).2
  have sizes := congrArg List.length accepts.blockCut.glue
  rw [sameBody, isMore] at sizes
  simp only [List.length_append, CRLF_length, CRLFCRLF_length] at sizes
  omega

theorem not_framed_of_not_hasHeaderLine
    {input : Bytes} {tree : ASTNode}
    (accepted : parseHTTPRequest input = .ok tree)
    (noHeaderLine : ¬ HasHeaderLine input) :
    ¬ FramedAtBlankLine input tree := by
  rcases parseHTTPRequest_eq_ok_iff.mp accepted with
    ⟨firstLine, rest, block, parts, accepts, rfl⟩
  rw [hasHeaderLine_iff accepts, not_not] at noHeaderLine
  rcases noHeaderLine with ⟨more, rfl⟩
  exact not_framed_of_blank accepts

/--
An accepted request is framed at its first blank line exactly when it has a
header line.
-/
theorem framedAtBlankLine_iff_hasHeaderLine
    (input : Bytes) (tree : ASTNode)
    (accepted : parseHTTPRequest input = .ok tree) :
    FramedAtBlankLine input tree ↔ HasHeaderLine input := by
  constructor
  · intro framed
    by_contra noHeaderLine
    exact not_framed_of_not_hasHeaderLine accepted noHeaderLine framed
  · intro headerLine
    rcases parseHTTPRequest_eq_ok_iff.mp accepted with
      ⟨firstLine, rest, block, parts, accepts, rfl⟩
    exact framed_of_hasHeaderLine accepts
      ((hasHeaderLine_iff accepts).mp headerLine)

theorem bareRequest_framed_iff :
    FramedAtBlankLine bareRequest bareTree ↔ HasHeaderLine bareRequest :=
  framedAtBlankLine_iff_hasHeaderLine bareRequest bareTree
    bareRequest_accepted

/-- Body bytes are interpreted as the header block of the bare request. -/
theorem bareRequest_not_framed :
    ∃ tree, parseHTTPRequest bareRequest = .ok tree ∧
      ¬ FramedAtBlankLine bareRequest tree :=
  ⟨bareTree, bareRequest_accepted,
    not_framed_of_not_hasHeaderLine bareRequest_accepted
      (by decide +kernel)⟩

end ServerUtils.Parser.RequestSoundness
