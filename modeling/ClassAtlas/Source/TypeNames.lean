import ClassAtlas.Ordered
import ClassAtlas.Source.Expr

/-!
# Names of types in an annotation

The classes that an annotation mentions: a plain name, the last part of a dotted name, and for an
entry `A[B, C]` those of the type and of its arguments. Any other expression mentions none.
-/

namespace ClassAtlas.Source

mutual

/-- The names that an annotation mentions, in its order, perhaps repeated. -/
def Expr.mentioned : Expr → List String
  | .name id => [id]
  | .member _ last => [last]
  | .subscript value index => index.mentioned ++ value.mentioned
  | .tuple elements => Expr.mentionedAll elements
  | _ => []

/-- The names that several annotations mention. -/
def Expr.mentionedAll : List Expr → List String
  | [] => []
  | e :: rest => e.mentioned ++ Expr.mentionedAll rest

end

/-- The names that an annotation mentions, sorted, each once. -/
def Expr.typeNames (e : Expr) : List String :=
  Ordered.insertAll nameBefore e.mentioned []

end ClassAtlas.Source
