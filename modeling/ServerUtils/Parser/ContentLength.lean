import ServerUtils.Parser.RequestSoundness

/-!
# What the Content-Length check guarantees

The parser compares the size of the body with one number: what `stoi` reads
from the first recorded Content-Length header.  Lines which the header loop
does not record (the last line of the block) and later duplicates are not
compared with anything, and `stoi` reads more than plain numerals.
-/

namespace ServerUtils.Parser.ContentLength

open ServerUtils.Foundation.Search
open ServerUtils.Parser.StdString
open ServerUtils.Parser.AST
open ServerUtils.Parser.Request
open ServerUtils.Parser.RequestAcceptance
open ServerUtils.Parser.RequestSoundness

/-- The text between the request line and the first blank line. -/
def headerBlock (input : Bytes) : Bytes :=
  match find CRLF input, find CRLFCRLF input with
  | some lineEnd, some blockEnd =>
      (input.take blockEnd).drop (lineEnd + CRLF.length)
  | _, _ => []

/-- The text after the first blank line. -/
def afterBlankLine (input : Bytes) : Bytes :=
  match find CRLFCRLF input with
  | some blockEnd => input.drop (blockEnd + CRLFCRLF.length)
  | none => []

/-- The lines of the header block. -/
def blockLines (input : Bytes) : List Bytes :=
  splitOn CRLF (headerBlock input)

/-- The line which states a Content-Length. -/
def contentLengthLine (value : Bytes) : Bytes :=
  str "Content-Length: " ++ value

/--
Every Content-Length line of the header block is a plain numeral for the size
of the body leaf.
-/
def EnforcesContentLength (input : Bytes) (tree : ASTNode) : Prop :=
  ∀ value, contentLengthLine value ∈ blockLines input →
    IsNumeral value ∧
      ∃ body,
        tree.child? (str "body") = some (.withLeaf (str "body") body) ∧
          digitsValue value = body.length

/--
The only line which the parser checks: the first one, the last line of the
block aside, whose key is Content-Length.
-/
def checkedLine (lines : List Bytes) : Option Bytes :=
  lines.dropLast.find? fun line =>
    (str "Content-Length:").isPrefixOf line

/--
The number which the stated lengths have to agree with: what `stoi` reads
from the checked line, or the size of what follows the blank line when no
line is checked.
-/
def AgreesWithChecked (input value : Bytes) : Prop :=
  match checkedLine (blockLines input) with
  | some line =>
      ∃ contentLength,
        stoi (line.drop (str "Content-Length: ").length) =
            .ok contentLength ∧
          digitsValue value = toSizeT contentLength
  | none => digitsValue value = (afterBlankLine input).length

/--
All Content-Length lines are plain numerals, and the lines which are not
checked state the same length as the checked one.
-/
def ConsistentLengths (input : Bytes) : Prop :=
  ∀ value, contentLengthLine value ∈ blockLines input →
    IsNumeral value ∧ AgreesWithChecked input value

/-! ## The specification's block and the parser's block -/

theorem headerBlock_of_hasHeaderLine
    {input firstLine rest block : Bytes} {parts : RequestParts}
    (accepts : Accepts input firstLine rest block parts)
    (notBlank : ¬ CRLF <+: rest) :
    headerBlock input = block ∧ afterBlankLine input = parts.body := by
  have cut :=
    firstCut_blankLine accepts.lineCut accepts.blockCut notBlank
  have size : (firstLine ++ CRLF ++ block).length + CRLFCRLF.length =
      (firstLine ++ CRLF ++ block ++ CRLFCRLF).length := by
    simp only [List.length_append]
  constructor
  · simp only [headerBlock, accepts.lineCut.find_eq, cut.find_eq]
    rw [cut.glue, List.append_assoc _ CRLFCRLF, List.take_left,
      ← List.length_append, List.drop_left]
  · simp only [afterBlankLine, cut.find_eq]
    rw [size, cut.glue, List.drop_left]

theorem headerBlock_of_blank
    {input firstLine more : Bytes}
    (lineCut : FirstCut CRLF input firstLine (CRLF ++ more)) :
    headerBlock input = [] := by
  have cut := firstCut_immediate lineCut
  simp only [headerBlock, lineCut.find_eq, cut.find_eq]
  apply List.drop_eq_nil_of_le
  rw [List.length_take]
  omega

/-- An empty block has no Content-Length line. -/
theorem no_contentLengthLine_of_empty
    {input : Bytes} (empty : headerBlock input = []) (value : Bytes) :
    contentLengthLine value ∉ blockLines input := by
  rw [blockLines, empty, splitOn_of_absent (by decide), List.mem_singleton]
  simp [contentLengthLine, str]

/-! ## The recorded header and the checked line -/

/-- The key of a recorded line is Content-Length iff the line starts so. -/
theorem contentLength_isPrefixOf_iff
    {key : Bytes} (noColon : (58 : UInt8) ∉ key) (rest : Bytes) :
    (str "Content-Length:").isPrefixOf (key ++ 58 :: rest) = true ↔
      key = str "Content-Length" := by
  have split : str "Content-Length:" = str "Content-Length" ++ [58] := by
    decide
  rw [List.isPrefixOf_iff_prefix, split]
  constructor
  · rintro ⟨later, equal⟩
    have left := firstCut_colon noColon rest
    have right := firstCut_colon
      (by decide : (58 : UInt8) ∉ str "Content-Length") later
    have sameText :
        str "Content-Length" ++ 58 :: later = key ++ 58 :: rest := by
      rw [← equal, List.append_assoc]
      rfl
    rw [sameText] at right
    exact (left.unique right).1
  · rintro rfl
    exact ⟨rest, by simp only [List.append_assoc, List.singleton_append]⟩

/-- The first recorded Content-Length is the value of the checked line. -/
theorem firstHeader_contentLength
    {lines : List Bytes} {headers : List (Bytes × Bytes)}
    (recorded : HeaderLines lines headers) :
    firstHeader (str "Content-Length") headers =
      (lines.find? fun line =>
          (str "Content-Length:").isPrefixOf line).map
        fun line => line.drop (str "Content-Length: ").length := by
  induction recorded with
  | nil => rfl
  | @skip line lines headers noColon rest ih =>
      have skipped : (str "Content-Length:").isPrefixOf line = false := by
        rw [Bool.eq_false_iff]
        intro starts
        have inside := (List.isPrefixOf_iff_prefix.mp starts).subset
        exact noColon (inside (by decide))
      rw [List.find?_cons_of_neg (by simp [skipped])]
      exact ih
  | @record key separator value lines headers noColon rest ih =>
      have starts :=
        contentLength_isPrefixOf_iff noColon (separator :: value)
      by_cases isLength : key = str "Content-Length"
      · rw [List.find?_cons_of_pos (starts.mpr isLength), firstHeader,
          List.find?_cons_of_pos (by simp [isLength])]
        subst isLength
        rfl
      · rw [List.find?_cons_of_neg (by
            intro impossible
            exact isLength (starts.mp impossible)),
          firstHeader, List.find?_cons_of_neg (by simp [isLength])]
        exact ih

/-- The body has the length that Content-Length lines have to agree with. -/
theorem agreesWithChecked_iff
    {input firstLine rest block : Bytes} {parts : RequestParts}
    (accepts : Accepts input firstLine rest block parts)
    (notBlank : ¬ CRLF <+: rest) (value : Bytes) :
    AgreesWithChecked input value ↔
      digitsValue value = parts.body.length := by
  rcases headerBlock_of_hasHeaderLine accepts notBlank with
    ⟨sameBlock, sameBody⟩
  have lines : blockLines input = splitOn CRLF block := by
    rw [blockLines, sameBlock]
  have recorded := firstHeader_contentLength accepts.headers
  rw [AgreesWithChecked, lines, sameBody]
  change firstHeader _ _ = (checkedLine (splitOn CRLF block)).map _ at recorded
  cases checked : checkedLine (splitOn CRLF block) with
  | none => rfl
  | some line =>
      rw [checked] at recorded
      rcases accepts.contentLength _ recorded with
        ⟨contentLength, parsed, sameLength⟩
      constructor
      · rintro ⟨other, otherParsed, agrees⟩
        rw [parsed] at otherParsed
        cases otherParsed
        exact agrees.trans sameLength.symm
      · intro agrees
        exact ⟨contentLength, parsed, agrees.trans sameLength⟩

theorem child?_body (parts : RequestParts) :
    parts.tree.child? (str "body") =
      some (.withLeaf (str "body") parts.body) := rfl

/--
The parser enforces the Content-Length lines of an accepted request exactly
when they are consistent.
-/
theorem enforcesContentLength_iff_consistent
    (input : Bytes) (tree : ASTNode)
    (accepted : parseHTTPRequest input = .ok tree) :
    EnforcesContentLength input tree ↔ ConsistentLengths input := by
  rcases parseHTTPRequest_eq_ok_iff.mp accepted with
    ⟨firstLine, rest, block, parts, accepts, rfl⟩
  by_cases blank : CRLF <+: rest
  · rcases blank with ⟨more, rfl⟩
    have empty := no_contentLengthLine_of_empty
      (headerBlock_of_blank accepts.lineCut)
    constructor <;> intro _ value member <;>
      exact absurd member (empty value)
  · apply forall_congr'
    intro value
    apply imp_congr_right
    intro _
    apply and_congr_right
    intro _
    rw [agreesWithChecked_iff accepts blank]
    constructor
    · rintro ⟨body, isBody, sameLength⟩
      have node := Option.some.inj (isBody.symm.trans (child?_body parts))
      rw [sameLength, (ASTNode.withLeaf_inj.mp node).2]
    · intro sameLength
      exact ⟨parts.body, child?_body parts, sameLength⟩

/-- A request whose only header line states a wrong length. -/
def misstatedRequest : Bytes :=
  str "POST / HTTP/1.1\r\nContent-Length: 5\r\n\r\nbody"

def misstatedTree : ASTNode :=
  RequestParts.tree ⟨str "POST", str "/", str "HTTP/1.1", [], str "body"⟩

theorem misstatedRequest_accepted :
    parseHTTPRequest misstatedRequest = .ok misstatedTree := by
  decide +kernel

theorem misstatedRequest_enforced_iff :
    EnforcesContentLength misstatedRequest misstatedTree ↔
      ConsistentLengths misstatedRequest :=
  enforcesContentLength_iff_consistent misstatedRequest misstatedTree
    misstatedRequest_accepted

theorem misstatedRequest_not_enforced :
    ∃ tree, parseHTTPRequest misstatedRequest = .ok tree ∧
      ¬ EnforcesContentLength misstatedRequest tree := by
  refine ⟨misstatedTree, misstatedRequest_accepted, fun enforced => ?_⟩
  rcases enforced (str "5") (by decide +kernel) with
    ⟨-, body, isBody, sameLength⟩
  have node := Option.some.inj (isBody.symm.trans (child?_body _))
  rw [(ASTNode.withLeaf_inj.mp node).2] at sameLength
  exact absurd sameLength (by decide +kernel)

end ServerUtils.Parser.ContentLength
