import ServerUtils.Foundation.Search
import ServerUtils.Parser.AST

/-!
# `parseHTTPRequest` and `isASTValid`

The parser shrinks its input by a sequence of `find` and `substr` calls: the
request line is cut at the first CRLF, its three fields at spaces, the header
block at the first CRLFCRLF of what is left, and the header block line by
line.  Each stage of the source is one definition here, in source order, so
that the order in which errors are raised is the order of the source.
-/

namespace ServerUtils.Parser.Request

open ServerUtils.Foundation.Search
open ServerUtils.Parser.StdString
open ServerUtils.Parser.AST

/-- The line delimiter of the source. -/
def CRLF : Bytes := str "\r\n"

/-- The delimiter after the header block. -/
def CRLFCRLF : Bytes := str "\r\n\r\n"

@[simp]
theorem CRLF_length : CRLF.length = 2 := rfl

@[simp]
theorem CRLFCRLF_length : CRLFCRLF.length = 4 := rfl

/-- Cut the input at the first CRLF: the request line and what follows. -/
def cutFirstLine (input : Bytes) :
    Except StdException (Bytes × Bytes) :=
  match find CRLF input with
  | none =>
      .error (.invalidArgument
        "HTTP Parse ERROR: Expected '\\r\\n' in request")
  | some pos => do
      let firstLine ← substr input 0 (some pos)
      let input ← substr input (pos + 2) npos
      return (firstLine, input)

/-- The condition under which the source rejects a method. -/
def invalidMethod (method : Bytes) : Bool :=
  method.isEmpty || 10 < method.length ||
    (method != str "GET" && method != str "POST" &&
      method != str "PUT" && method != str "DELETE")

/-- Cut the method off the request line. -/
def cutMethod (firstLine : Bytes) :
    Except StdException (Bytes × Bytes) :=
  match find (str " ") firstLine with
  | none =>
      .error (.invalidArgument
        "HTTP Parse ERROR: Expected separator 'space' at first line after METHOD on request")
  | some pos => do
      let method ← substr firstLine 0 (some pos)
      if invalidMethod method then
        throw (.runtimeError "HTTP Parse ERROR: Invalid HTTP method")
      else
        let firstLine ← substr firstLine (pos + 1) npos
        return (method, firstLine)

/-- Cut the URL off the rest of the request line. -/
def cutUrl (firstLine : Bytes) :
    Except StdException (Bytes × Bytes) :=
  match find (str " ") firstLine with
  | none =>
      .error (.invalidArgument
        "HTTP Parse ERROR: Expected separator 'space' at first line after URL on request")
  | some pos => do
      let url ← substr firstLine 0 (some pos)
      if url.isEmpty then
        throw (.invalidArgument "HTTP Parse ERROR: Empty URL")
      else
        let firstLine ← substr firstLine (pos + 1) npos
        return (url, firstLine)

/-- What is left of the request line is the version; it may be empty. -/
def checkVersion (firstLine : Bytes) : Except StdException Unit :=
  if !firstLine.isEmpty && firstLine.head? != some 72 then -- 'H'
    .error (.runtimeError
      "HTTP Parse ERROR: invalid field of HTTP version")
  else .ok ()

/-- Cut the remaining input at the first CRLFCRLF. -/
def cutHeaders (input : Bytes) :
    Except StdException (Bytes × Bytes) :=
  match find CRLFCRLF input with
  | none =>
      .error (.invalidArgument
        "HTTP Parse ERROR: Expected '\\r\\n\\r\\n' after field of HTTP-headers in request")
  | some pos => do
      let headers ← substr input 0 (some pos)
      let input ← substr input (pos + 4) npos
      return (headers, input)

/-- The body of the header loop after a line has been cut off. -/
def addHeaderLine (headerLine : Bytes) (headersNode : ASTNode) :
    Except StdException ASTNode :=
  match find (str ":") headerLine with
  | none => .ok headersNode
  | some pos => do
      let headerKey ← substr headerLine 0 (some pos)
      let headerValue ← substr headerLine (pos + 2) npos
      return headersNode.addChild (.withLeaf headerKey headerValue)

/-- `while (!headers.empty())`. -/
def headerLoop (headers : Bytes) (headersNode : ASTNode) :
    Except StdException ASTNode :=
  if headers.isEmpty then .ok headersNode
  else
    match find CRLF headers with
    -- the source breaks here, so what is left of the block is not read
    | none => .ok headersNode
    | some pos => do
        let headerLine ← substr headers 0 (some pos)
        match _cut : substr headers (pos + 2) npos with
        | .error exception => throw exception
        | .ok rest =>
            let headersNode ← addHeaderLine headerLine headersNode
            headerLoop rest headersNode
termination_by headers.length
decreasing_by
  have bounds := length_of_substr_npos _cut
  omega

/--
The Content-Length check.  Header nodes are built with one child, so the
unchecked `getChildren()[0]` of the source is the head of the list.
-/
def checkContentLength (headersNode : ASTNode) (input : Bytes) :
    Except StdException Unit :=
  match headersNode.getChildren.find? fun node =>
      node.getType = str "Content-Length" with
  | none => .ok ()
  | some contentLengthHeader => do
      let contentLengthStr :=
        (contentLengthHeader.getChildren.head?.map ASTNode.getType).getD []
      let contentLength ← stoi contentLengthStr
      if input.length ≠ toSizeT contentLength then
        throw (.runtimeError "HTTP Parse ERROR: Content-Length")
      else return ()

/-- Deserialise an HTTP request. -/
def parseHTTPRequest (input : Bytes) : Except StdException ASTNode :=
  if input.isEmpty then
    .error (.invalidArgument "HTTP Parse ERROR: Request is empty")
  else do
    let request := ASTNode.new (str "request")
    let (firstLine, input) ← cutFirstLine input
    let (method, firstLine) ← cutMethod firstLine
    let request := request.addChild (.withLeaf (str "method") method)
    let (url, firstLine) ← cutUrl firstLine
    let request := request.addChild (.withLeaf (str "url") url)
    checkVersion firstLine
    let request := request.addChild (.withLeaf (str "version") firstLine)
    let (headers, input) ← cutHeaders input
    let headersNode ← headerLoop headers (.new (str "headers"))
    let request := request.addChild headersNode
    checkContentLength headersNode input
    return request.addChild (.withLeaf (str "body") input)

/-- The children which `isASTValid` requires. -/
def requiredChildren : List Bytes :=
  [str "method", str "url", str "version", str "headers", str "body"]

/-- Check the shape of the tree of a request. -/
def isASTValid (node : ASTNode) : Bool :=
  if node.getType != str "request" then false
  else
    requiredChildren.all fun child =>
      node.getChildren.any fun nodeChild => nodeChild.getType == child

end ServerUtils.Parser.Request
