/-!
# Trees of a source file

A parser gives the tree of a file: nodes that cover ranges of it. Of the nodes that cover a range the
tightest is wanted.
-/

namespace Remedy

/-- A node of the tree of a file, with the range that it covers. -/
inductive SyntaxTree where
  | node (name : String) (first last : Int) (children : List SyntaxTree)

namespace SyntaxTree

/-- The name of a node. -/
def name : SyntaxTree → String
  | .node name _ _ _ => name

/-- Where a node begins. -/
def first : SyntaxTree → Int
  | .node _ first _ _ => first

/-- Where a node ends. -/
def last : SyntaxTree → Int
  | .node _ _ last _ => last

/-- The nodes directly below a node. -/
def children : SyntaxTree → List SyntaxTree
  | .node _ _ _ children => children

/-- A node covers a range. -/
def covers (t : SyntaxTree) (start stop : Int) : Bool :=
  t.first ≤ start && stop ≤ t.last

mutual

/-- The tightest node that covers a range, found from the root downwards
(`node_with_tightest_bounds`). -/
def tightest (start stop : Int) : SyntaxTree → SyntaxTree
  | .node name first last children =>
    tightestAmong start stop first last (.node name first last children) children

/-- Goes through the nodes below one node. A node is entered if it covers the range and stays inside
the range `low` to `high` of the last node that was entered. `found` is what was found so far. -/
def tightestAmong (start stop low high : Int) (found : SyntaxTree) :
    List SyntaxTree → SyntaxTree
  | [] => found
  | child :: rest =>
    if child.covers start stop && low ≤ child.first && child.last ≤ high then
      tightestAmong start stop child.first child.last (tightest start stop child) rest
    else tightestAmong start stop low high found rest

end

end SyntaxTree
end Remedy
