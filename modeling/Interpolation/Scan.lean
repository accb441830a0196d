import Interpolation.Bind
import Interpolation.Syntax.Piece

/-!
# Scanning interpolated texts

Scanning turns a text into a tree, one piece after the other, and stops at the first error
(`Interpolation.scanWith`). Since a call's arguments are interpolated texts themselves, scanning is recursive;
the recursion is tied in `Interpolation.readWithin`, which counts the levels of text that may still be entered
and refuses the one below the last.
-/

namespace Interpolation

/-- Reads what stands between the braces of a span that starts at the given offset. -/
def readSpan (catalog : Catalog) (read : Reader) (offset : Nat) (inner : List Char) :
    Except ParseError Node :=
  let content := Text.trim inner
  let start := offset + 2 + Text.width (Text.leading inner)
  if content.isEmpty then
    .error ⟨.emptyInterpolation, offset⟩
  else
    match CallHead.read? content with
    | none => .ok (.variable (String.ofList content))
    | some head =>
      Node.call <$> bindWith catalog read start (start + head.width)
        (String.ofList head.qualifier) (String.ofList head.name) head.arguments

/-- Reads pieces in order, the first of them starting at the given offset. -/
def readPieces (catalog : Catalog) (read : Reader) (offset : Nat) : List Piece → Except ParseError Tree
  | [] => .ok []
  | .text content :: rest => do
    let tree ← readPieces catalog read (offset + Text.width content) rest
    return .text (String.ofList content) :: tree
  | .span inner :: rest => do
    let node ← readSpan catalog read offset inner
    let tree ← readPieces catalog read (offset + 2 + Text.width inner + 2) rest
    return node :: tree
  | .unclosed _ :: _ => .error ⟨.unmatchedBraces, offset⟩

/-- **Reads a text**, its argument values by a given reader. A text without pieces is one empty text node. -/
def scanWith (catalog : Catalog) (read : Reader) : Reader := fun offset s =>
  match Piece.cut s with
  | [] => .ok [.text ""]
  | pieces => readPieces catalog read offset pieces

/-- Reads a text of which so many levels may be entered, the text itself being the first. The limit that an
error names is the one of the whole run. -/
def readWithin (catalog : Catalog) (limit : Nat) : Nat → Reader
  | 0 => fun offset _ => .error ⟨.tooDeeplyNested limit, offset⟩
  | levels + 1 => scanWith catalog (readWithin catalog limit levels)

end Interpolation
