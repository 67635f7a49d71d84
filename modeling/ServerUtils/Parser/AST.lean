import ServerUtils.Parser.StdString

/-!
# The abstract syntax tree of the parser

`ASTNode` is a labelled ordered tree.  Labels are byte strings: the parser
uses fixed names for the structural nodes and client-supplied bytes for the
leaves and for the header nodes.
-/

namespace ServerUtils.Parser.AST

open ServerUtils.Parser.StdString

/-- A tree node with its label and its children in insertion order. -/
structure ASTNode where
  type : Bytes
  children : List ASTNode
deriving Repr

mutual

/-- Equality of trees is decided label by label. -/
def decEqNode : (left right : ASTNode) → Decidable (left = right)
  | ⟨leftType, leftChildren⟩, ⟨rightType, rightChildren⟩ =>
      match decEq leftType rightType,
        decEqChildren leftChildren rightChildren with
      | isTrue sameType, isTrue sameChildren =>
          isTrue (by rw [sameType, sameChildren])
      | isFalse differ, _ =>
          isFalse fun equal => differ (ASTNode.mk.inj equal).1
      | _, isFalse differ =>
          isFalse fun equal => differ (ASTNode.mk.inj equal).2

def decEqChildren :
    (left right : List ASTNode) → Decidable (left = right)
  | [], [] => isTrue rfl
  | [], _ :: _ => isFalse nofun
  | _ :: _, [] => isFalse nofun
  | left :: leftRest, right :: rightRest =>
      match decEqNode left right, decEqChildren leftRest rightRest with
      | isTrue sameNode, isTrue sameRest =>
          isTrue (by rw [sameNode, sameRest])
      | isFalse differ, _ =>
          isFalse fun equal => differ (List.cons.inj equal).1
      | _, isFalse differ =>
          isFalse fun equal => differ (List.cons.inj equal).2

end

instance : DecidableEq ASTNode := decEqNode

namespace ASTNode

/-- The constructor `ASTNode(type)`: a node without children. -/
def new (type : Bytes) : ASTNode where
  type := type
  children := []

def addChild (node child : ASTNode) : ASTNode :=
  { node with children := node.children ++ [child] }

def getType (node : ASTNode) : Bytes :=
  node.type

def getChildren (node : ASTNode) : List ASTNode :=
  node.children

/-- `operator[]`: the first child with the given label. -/
def child? (node : ASTNode) (name : Bytes) : Option ASTNode :=
  node.children.find? fun child => child.getType = name

@[simp]
theorem getType_addChild (node child : ASTNode) :
    (node.addChild child).getType = node.getType := rfl

@[simp]
theorem getChildren_addChild (node child : ASTNode) :
    (node.addChild child).getChildren = node.getChildren ++ [child] := rfl

@[ext]
theorem ext
    {left right : ASTNode}
    (sameType : left.getType = right.getType)
    (sameChildren : left.getChildren = right.getChildren) :
    left = right := by
  cases left
  cases right
  cases sameType
  cases sameChildren
  rfl

/-- A structural node with one leaf, as the parser builds them. -/
def withLeaf (name leaf : Bytes) : ASTNode :=
  (new name).addChild (new leaf)

@[simp]
theorem getType_withLeaf (name leaf : Bytes) :
    (withLeaf name leaf).getType = name := rfl

@[simp]
theorem getChildren_withLeaf (name leaf : Bytes) :
    (withLeaf name leaf).getChildren = [new leaf] := rfl

theorem withLeaf_inj
    {name leaf name' leaf' : Bytes} :
    withLeaf name leaf = withLeaf name' leaf' ↔
      name = name' ∧ leaf = leaf' := by
  constructor
  · intro equal
    have leaves := congrArg getChildren equal
    simp only [getChildren_withLeaf, List.cons.injEq, and_true] at leaves
    exact ⟨congrArg getType equal, congrArg getType leaves⟩
  · rintro ⟨rfl, rfl⟩
    rfl

end ASTNode

end ServerUtils.Parser.AST
