import ServerUtils.Foundation.Search
import ServerUtils.Parser.AST

/-!
# The textual dump of a tree

`toString` writes the labels of a tree with brackets around the children.  Cut
at its spaces, the text is a list of tokens: the label of a node, and brackets
only if the node has children.  The tokens determine the tree as long as no
label contains a space or is a bracket.
-/

namespace ServerUtils.Parser.AST

open ServerUtils.Foundation.Search
open ServerUtils.Parser.StdString

namespace ASTNode

mutual

/-- `ASTNode::toString`. -/
def toString : ASTNode → Bytes
  | ⟨type, children⟩ =>
      if children.isEmpty then type
      else type ++ str " [" ++ childrenToString children ++ str " ]"

/-- The loop of `toString` over the children. -/
def childrenToString : List ASTNode → Bytes
  | [] => []
  | child :: rest => str " " ++ child.toString ++ childrenToString rest

end

mutual

/-- The tokens of a tree. -/
def tokens : ASTNode → List Bytes
  | ⟨type, children⟩ =>
      if children.isEmpty then [type]
      else type :: str "[" :: (childTokens children ++ [str "]"])

def childTokens : List ASTNode → List Bytes
  | [] => []
  | child :: rest => child.tokens ++ childTokens rest

end

/-- A label without spaces which is not a bracket. -/
def PlainLabel (label : Bytes) : Prop :=
  32 ∉ label ∧ label ≠ str "[" ∧ label ≠ str "]"

instance (label : Bytes) : Decidable (PlainLabel label) :=
  inferInstanceAs (Decidable (_ ∧ _ ∧ _))

mutual

/-- All labels of the tree are plain. -/
def Plain : ASTNode → Prop
  | ⟨type, children⟩ => PlainLabel type ∧ AllPlain children

def AllPlain : List ASTNode → Prop
  | [] => True
  | child :: rest => child.Plain ∧ AllPlain rest

end

mutual

def decPlain : (node : ASTNode) → Decidable node.Plain
  | ⟨type, children⟩ =>
      have := decAllPlain children
      inferInstanceAs (Decidable (PlainLabel type ∧ AllPlain children))

def decAllPlain : (children : List ASTNode) → Decidable (AllPlain children)
  | [] => .isTrue True.intro
  | child :: rest =>
      have := decPlain child
      have := decAllPlain rest
      inferInstanceAs (Decidable (child.Plain ∧ AllPlain rest))

end

instance (node : ASTNode) : Decidable node.Plain := decPlain node

/-! ## The text and its tokens -/

/-- Every token with a space before it. -/
def spaced (tokens : List Bytes) : Bytes :=
  tokens.flatMap (str " " ++ ·)

theorem spaced_append (first second : List Bytes) :
    spaced (first ++ second) = spaced first ++ spaced second :=
  List.flatMap_append

theorem intercalate_cons (first : Bytes) (rest : List Bytes) :
    (str " ").intercalate (first :: rest) = first ++ spaced rest := by
  induction rest generalizing first with
  | nil => simp [spaced]
  | cons next rest ih =>
      rw [List.intercalate_cons_of_ne_nil (List.cons_ne_nil next rest), ih]
      simp [spaced]

/-- A tree has tokens, and the first of them is its label. -/
theorem tokens_eq_cons (node : ASTNode) :
    ∃ rest, node.tokens = node.getType :: rest := by
  rcases node with ⟨type, children⟩
  rw [tokens]
  split_ifs
  · exact ⟨[], rfl⟩
  · exact ⟨_, rfl⟩

mutual

/-- The text of a tree is its tokens, with spaces between them. -/
theorem toString_eq (node : ASTNode) :
    node.toString = (str " ").intercalate node.tokens := by
  rcases node with ⟨type, children⟩
  rw [toString, tokens]
  split_ifs with leaf
  · simp
  · rw [intercalate_cons, childrenToString_eq children, ← List.cons_append,
      spaced_append]
    simp [spaced, str]

theorem childrenToString_eq (children : List ASTNode) :
    childrenToString children = spaced (childTokens children) := by
  cases children with
  | nil => rfl
  | cons child rest =>
      rcases tokens_eq_cons child with ⟨later, isTokens⟩
      rw [childrenToString, childTokens, toString_eq child,
        childrenToString_eq rest, spaced_append, isTokens,
        intercalate_cons]
      simp [spaced]

end

/-! ## Unique readability -/

/-- What may follow a tree: nothing, a label or a closing bracket. -/
def Follows (rest : List Bytes) : Prop :=
  rest.head? ≠ some (str "[")

theorem follows_tokens
    {node : ASTNode} (plain : node.Plain) (rest : List Bytes) :
    Follows (node.tokens ++ rest) := by
  rcases tokens_eq_cons node with ⟨later, isTokens⟩
  rw [isTokens]
  rcases node with ⟨type, children⟩
  intro bracket
  exact plain.1.2.1 (Option.some.inj bracket)

/-- After a child come other children, or the bracket that closes the list. -/
theorem follows_childTokens
    {children : List ASTNode} (plain : AllPlain children)
    (rest : List Bytes) :
    Follows (childTokens children ++ str "]" :: rest) := by
  cases children with
  | nil =>
      intro bracket
      exact absurd (Option.some.inj bracket) (by decide)
  | cons child later =>
      rw [childTokens, List.append_assoc]
      exact follows_tokens plain.1 _

/-- A list of children does not begin with the bracket that closes it. -/
theorem childTokens_ne_closing
    {child : ASTNode} (plain : child.Plain) (later : List ASTNode)
    (rest rest' : List Bytes) :
    childTokens (child :: later) ++ rest ≠ str "]" :: rest' := by
  rcases tokens_eq_cons child with ⟨more, isTokens⟩
  rw [childTokens, isTokens]
  rcases child with ⟨type, children⟩
  intro closing
  exact plain.1.2.2 (List.cons.inj closing).1

mutual

/-- The tokens of a tree can be cancelled in front of what may follow it. -/
theorem tokens_cancel
    (left right : ASTNode) (leftPlain : left.Plain)
    (rightPlain : right.Plain) {rest rest' : List Bytes}
    (follows : Follows rest) (follows' : Follows rest')
    (equal : left.tokens ++ rest = right.tokens ++ rest') :
    left = right ∧ rest = rest' := by
  rcases left with ⟨type, children⟩
  rcases right with ⟨type', children'⟩
  rw [tokens, tokens] at equal
  split_ifs at equal with leaf leaf' leaf' <;>
    simp only [List.cons_append, List.nil_append, List.append_assoc] at equal
  · rcases List.cons.inj equal with ⟨rfl, same⟩
    rw [List.isEmpty_iff.mp leaf, List.isEmpty_iff.mp leaf']
    exact ⟨rfl, same⟩
  · -- the bracket of the right tree would follow the left one
    have bracket := (List.cons.inj equal).2
    exact absurd (congrArg List.head? bracket) follows
  · have bracket := (List.cons.inj equal).2
    exact absurd (congrArg List.head? bracket.symm) follows'
  · rcases List.cons.inj equal with ⟨rfl, inside⟩
    have afterBracket := (List.cons.inj inside).2
    rcases childTokens_cancel children children' leftPlain.2 rightPlain.2
        afterBracket with
      ⟨rfl, same⟩
    exact ⟨rfl, same⟩

/-- The tokens of children can be cancelled in front of the bracket. -/
theorem childTokens_cancel
    (left right : List ASTNode) (leftPlain : AllPlain left)
    (rightPlain : AllPlain right) {rest rest' : List Bytes}
    (equal : childTokens left ++ str "]" :: rest =
      childTokens right ++ str "]" :: rest') :
    left = right ∧ rest = rest' := by
  cases left with
  | nil =>
      cases right with
      | nil => exact ⟨rfl, (List.cons.inj equal).2⟩
      | cons child later =>
          exact absurd equal.symm
            (childTokens_ne_closing rightPlain.1 later _ rest)
  | cons child later =>
      cases right with
      | nil =>
          exact absurd equal
            (childTokens_ne_closing leftPlain.1 later _ rest')
      | cons child' later' =>
          rw [childTokens, childTokens, List.append_assoc,
            List.append_assoc] at equal
          rcases tokens_cancel child child' leftPlain.1 rightPlain.1
              (follows_childTokens leftPlain.2 rest)
              (follows_childTokens rightPlain.2 rest') equal with
            ⟨rfl, remaining⟩
          rcases childTokens_cancel later later' leftPlain.2 rightPlain.2
              remaining with
            ⟨rfl, same⟩
          exact ⟨rfl, same⟩

end

/-! ## The dump -/

mutual

/-- No token of a plain tree contains a space. -/
theorem space_not_mem_tokens
    (node : ASTNode) (plain : node.Plain) :
    ∀ token ∈ node.tokens, 32 ∉ token := by
  rcases node with ⟨type, children⟩
  have inLabel : 32 ∉ type := plain.1.1
  have inChildren := space_not_mem_childTokens children plain.2
  intro token isToken
  rw [tokens] at isToken
  split_ifs at isToken
  · rw [List.mem_singleton.mp isToken]
    exact inLabel
  · rw [List.mem_cons, List.mem_cons, List.mem_append,
      List.mem_singleton] at isToken
    rcases isToken with rfl | rfl | inside | rfl
    · exact inLabel
    · decide
    · exact inChildren token inside
    · decide

theorem space_not_mem_childTokens
    (children : List ASTNode) (plain : AllPlain children) :
    ∀ token ∈ childTokens children, 32 ∉ token := by
  cases children with
  | nil => exact fun _ impossible => absurd impossible List.not_mem_nil
  | cons child rest =>
      intro token isToken
      rw [childTokens, List.mem_append] at isToken
      rcases isToken with first | later
      · exact space_not_mem_tokens child plain.1 token first
      · exact space_not_mem_childTokens rest plain.2 token later

end

/-- Cut at its spaces, the dump of a plain tree is its tokens. -/
theorem splitOn_toString (node : ASTNode) (plain : node.Plain) :
    splitOn (str " ") node.toString = node.tokens := by
  rcases tokens_eq_cons node with ⟨rest, isTokens⟩
  rw [toString_eq]
  apply splitOn_intercalate
  · rw [isTokens]
    exact List.cons_ne_nil _ _
  · exact space_not_mem_tokens node plain

/-- Plain trees with the same dump are the same tree. -/
theorem toString_injective
    (left right : ASTNode) (leftPlain : left.Plain)
    (rightPlain : right.Plain) (sameDump : left.toString = right.toString) :
    left = right := by
  have sameTokens : left.tokens = right.tokens := by
    rw [← splitOn_toString left leftPlain, sameDump,
      splitOn_toString right rightPlain]
  have nothing : Follows [] := by simp [Follows]
  apply And.left
  apply tokens_cancel left right leftPlain rightPlain nothing nothing
  rw [sameTokens]

/-- A tree with an empty label, built up child by child. -/
def hostTree : ASTNode :=
  ((new (str "headers")).addChild (withLeaf (str "Host") [])).addChild
    (new (str "Accept"))

theorem hostTree_eq_of_dump :
    hostTree =
      ⟨str "headers",
        [⟨str "Host", [⟨[], []⟩]⟩, ⟨str "Accept", []⟩]⟩ :=
  toString_injective _ _ (by decide) (by decide) (by decide)

end ASTNode

end ServerUtils.Parser.AST
