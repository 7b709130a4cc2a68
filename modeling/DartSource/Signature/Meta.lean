import DartSource.Layout.Fragment

/-!
# Doc comments and annotations

What may stand above a node. The doc comment comes first, then the annotations in the order given,
each with its `@` whether or not the mark was written.
-/

namespace DartSource

/-- The doc comment and the annotations of a node. -/
structure Meta where
  doc : Option String := none
  annotations : List String := []
  deriving DecidableEq, Repr, Inhabited

namespace Meta

/-- The line of an annotation. -/
def annotationLine (mark : String) : String :=
  let text := Text.trim mark
  if text.toList.head? = some '@' then text else "@" ++ text

/-- Doc comment, then annotations. -/
def fragments (info : Meta) : List Fragment :=
  (info.doc.toList.map Fragment.doc) ++
    info.annotations.map fun mark => .line (annotationLine mark)

/-- Sets the doc comment. -/
def withDoc (info : Meta) (text : String) : Meta :=
  { info with doc := some text }

/-- Adds an annotation behind the others. -/
def annotate (info : Meta) (mark : String) : Meta :=
  { info with annotations := info.annotations ++ [mark] }

end Meta

end DartSource
