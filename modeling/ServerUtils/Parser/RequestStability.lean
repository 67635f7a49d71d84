import ServerUtils.Parser.RequestAcceptance

/-!
# Appended bytes and prefixes of a request

A caller that reads from a socket in pieces parses a text, more of it, or less
of it.  Every cut of the parser is a first occurrence, so appended bytes only
lengthen the body, and a prefix which still holds both cuts only shortens it.
Without a recorded Content-Length the parser takes any body; with one it takes
bodies of one length, so the accepted texts are then prefix-free.
-/

namespace ServerUtils.Parser.RequestStability

open ServerUtils.Foundation.Search
open ServerUtils.Parser.StdString
open ServerUtils.Parser.AST
open ServerUtils.Parser.Request
open ServerUtils.Parser.RequestAcceptance

/-- The headers node of the tree has a child labelled Content-Length. -/
def StatesLength (tree : ASTNode) : Prop :=
  ∃ headers, tree.child? (str "headers") = some headers ∧
    ∃ child ∈ headers.getChildren, child.getType = str "Content-Length"

/-- The node with more bytes at the end of each of its leaves. -/
def extendLeaves (more : Bytes) (node : ASTNode) : ASTNode where
  type := node.getType
  children := node.getChildren.map fun leaf => .new (leaf.getType ++ more)

/-- The tree with its body leaf `b` replaced by `b ++ more`. -/
def extendBody (more : Bytes) (tree : ASTNode) : ASTNode where
  type := tree.getType
  children := tree.getChildren.map fun child =>
    if child.getType = str "body" then extendLeaves more child else child

/-- The parser throws. -/
def Rejected (input : Bytes) : Prop :=
  ∀ tree, parseHTTPRequest input ≠ .ok tree

/-- The parts with a longer body. -/
def withLongerBody (parts : RequestParts) (more : Bytes) : RequestParts :=
  { parts with body := parts.body ++ more }

theorem tree_withLongerBody (parts : RequestParts) (more : Bytes) :
    (withLongerBody parts more).tree = extendBody more parts.tree := rfl

theorem statesLength_iff (parts : RequestParts) :
    StatesLength parts.tree ↔
      ∃ value, firstHeader (str "Content-Length") parts.headers =
        some value := by
  rw [exists_firstHeader_iff]
  constructor
  · rintro ⟨headers, isHeaders, child, member, label⟩
    cases isHeaders
    rcases List.mem_map.mp member with ⟨header, headerMember, rfl⟩
    exact ⟨header, headerMember, label⟩
  · rintro ⟨header, member, label⟩
    exact ⟨headersTree parts.headers, rfl, headerNode header,
      List.mem_map_of_mem member, label⟩

/-! ## One text and a longer one -/

/-- A longer text has the same cuts, so only its length check is new. -/
theorem accepts_extend
    {input firstLine rest block : Bytes} {parts : RequestParts}
    (accepts : Accepts input firstLine rest block parts) {more : Bytes}
    (length : ContentLengthHolds parts.headers (parts.body ++ more)) :
    Accepts (input ++ more) firstLine (rest ++ more) block
      (withLongerBody parts more) where
  lineCut := accepts.lineCut.extend more
  fields := accepts.fields
  blockCut := accepts.blockCut.extend more
  headers := accepts.headers
  contentLength := length

/-- If both texts are accepted, their parts differ in the body only. -/
theorem parts_of_accepts_append
    {input firstLine rest block more firstLine' rest' block' : Bytes}
    {parts parts' : RequestParts}
    (accepts : Accepts input firstLine rest block parts)
    (accepts' : Accepts (input ++ more) firstLine' rest' block' parts') :
    parts'.headers = parts.headers ∧ parts'.body = parts.body ++ more := by
  rcases (accepts.lineCut.extend more).unique accepts'.lineCut with
    ⟨-, rfl⟩
  rcases (accepts.blockCut.extend more).unique accepts'.blockCut with
    ⟨rfl, sameBody⟩
  exact ⟨accepts'.headers.unique accepts.headers, sameBody.symm⟩

/-- A stated length fixes the length of the body. -/
theorem length_eq_of_stated
    {headers : List (Bytes × Bytes)} {body body' : Bytes}
    (stated : ∃ value,
      firstHeader (str "Content-Length") headers = some value)
    (left : ContentLengthHolds headers body)
    (right : ContentLengthHolds headers body') :
    body.length = body'.length := by
  rcases stated with ⟨value, found⟩
  rcases left value found with ⟨contentLength, parsed, length⟩
  rcases right value found with ⟨contentLength', parsed', length'⟩
  rw [parsed] at parsed'
  cases parsed'
  exact length.trans length'.symm

/-- With a stated length no two accepted texts extend one another. -/
theorem eq_nil_of_accepts_append
    {input firstLine rest block more firstLine' rest' block' : Bytes}
    {parts parts' : RequestParts}
    (accepts : Accepts input firstLine rest block parts)
    (accepts' : Accepts (input ++ more) firstLine' rest' block' parts')
    (stated : ∃ value,
      firstHeader (str "Content-Length") parts.headers = some value) :
    more = [] := by
  rcases parts_of_accepts_append accepts accepts' with
    ⟨sameHeaders, longerBody⟩
  have checked := accepts'.contentLength
  rw [sameHeaders, longerBody] at checked
  have sameLength := length_eq_of_stated stated accepts.contentLength checked
  rw [List.length_append] at sameLength
  exact List.eq_nil_of_length_eq_zero (by omega)

/-! ## Every accepted input -/

theorem parse_append_of_unstated
    {input more : Bytes} {tree : ASTNode}
    (accepted : parseHTTPRequest input = .ok tree)
    (unstated : ¬ StatesLength tree) :
    parseHTTPRequest (input ++ more) = .ok (extendBody more tree) := by
  rcases parseHTTPRequest_eq_ok_iff.mp accepted with
    ⟨firstLine, rest, block, parts, accepts, rfl⟩
  rw [statesLength_iff] at unstated
  have length : ContentLengthHolds parts.headers (parts.body ++ more) :=
    fun value found => absurd ⟨value, found⟩ unstated
  exact parseHTTPRequest_eq_ok_iff.mpr
    ⟨_, _, _, _, accepts_extend accepts length, (tree_withLongerBody parts more).symm⟩

/-- Of two accepted texts, one a proper prefix of the other, neither states. -/
theorem eq_nil_of_parse_append
    {input more : Bytes} {tree tree' : ASTNode}
    (accepted : parseHTTPRequest input = .ok tree)
    (accepted' : parseHTTPRequest (input ++ more) = .ok tree')
    (stated : StatesLength tree ∨ StatesLength tree') :
    more = [] := by
  rcases parseHTTPRequest_eq_ok_iff.mp accepted with
    ⟨firstLine, rest, block, parts, accepts, rfl⟩
  rcases parseHTTPRequest_eq_ok_iff.mp accepted' with
    ⟨firstLine', rest', block', parts', accepts', rfl⟩
  have sameHeaders := (parts_of_accepts_append accepts accepts').1
  rw [statesLength_iff, statesLength_iff, sameHeaders, or_self] at stated
  exact eq_nil_of_accepts_append accepts accepts' stated

/--
Without a Content-Length child the parser is stable under appended bytes;
with one, no proper extension and no proper prefix of the input is accepted.
-/
theorem parse_stable_or_prefixFree
    (input : Bytes) (tree : ASTNode)
    (accepted : parseHTTPRequest input = .ok tree) :
    (¬ StatesLength tree →
        ∀ more, parseHTTPRequest (input ++ more) =
          .ok (extendBody more tree)) ∧
      (StatesLength tree →
        (∀ more, more ≠ [] → Rejected (input ++ more)) ∧
          ∀ start, start <+: input → start ≠ input → Rejected start) := by
  refine ⟨fun unstated more => parse_append_of_unstated accepted unstated,
    fun stated => ⟨?_, ?_⟩⟩
  · intro more nonempty tree' accepted'
    exact nonempty (eq_nil_of_parse_append accepted accepted' (Or.inl stated))
  · rintro start ⟨more, rfl⟩ proper tree' accepted'
    have empty := eq_nil_of_parse_append accepted' accepted (Or.inr stated)
    exact proper (by rw [empty, List.append_nil])

/-- A request whose Content-Length is recorded: it is not the last line. -/
def framedRequest : Bytes :=
  str "PUT /a H\r\nContent-Length: 2\r\nHost: h\r\n\r\nok"

def framedTree : ASTNode :=
  RequestParts.tree
    ⟨str "PUT", str "/a", str "H", [(str "Content-Length", str "2")],
      str "ok"⟩

theorem framedRequest_prefixFree :
    (¬ StatesLength framedTree →
        ∀ more, parseHTTPRequest (framedRequest ++ more) =
          .ok (extendBody more framedTree)) ∧
      (StatesLength framedTree →
        (∀ more, more ≠ [] → Rejected (framedRequest ++ more)) ∧
          ∀ start, start <+: framedRequest → start ≠ framedRequest →
            Rejected start) :=
  parse_stable_or_prefixFree framedRequest framedTree (by decide +kernel)

end ServerUtils.Parser.RequestStability
