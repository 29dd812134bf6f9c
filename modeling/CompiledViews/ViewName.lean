import CompiledViews.Path

/-!
# How views are named

A template is known by its view id, the name of its file without the last extension: `page.blade`
for `/theme/page.blade.html`. Files of different directories may share a view id.

Templates know one another by view names such as `cache/home`: segments with slashes between them,
which lead from a directory to a file. A name that could lead elsewhere is no view name, so what is
loaded or written by name lies strictly below the directory.
-/

namespace CompiledViews

/-! ## View ids -/

/-- The view id of a template, unless its path ends in no name. -/
def Path.viewId? (p : Path) : Option Text := p.stem?

/-- The view id of a template whose path is known as bytes; it has to be UTF-8. -/
def Path.viewIdOfBytes? (p : Path UInt8) : Option Text :=
  p.stem?.bind fun stem ↦ (String.fromUTF8? ⟨stem.toArray⟩).map String.toList

/-! ## View names -/

/-- The extension of artifacts and of compiled output. -/
def artifactExtension : Text := "jinja".toList

namespace ViewName

/-- Whether a segment may stand in a view name. -/
def isSegment (segment : Text) : Bool :=
  segment != [] && segment != ['.'] && segment != ['.', '.'] && !segment.contains '\\'

/-- Whether a text is a view name. -/
def isValid (name : Text) : Bool := (Text.splitAll '/' name).all isSegment

/-- The file of a view, relative to the directory of views. -/
def relativePath? (name : Text) : Option Path :=
  if isValid name then some ⟨name ++ '.' :: artifactExtension⟩ else none

/-- The file of a view below a directory. -/
def path? (directory : Path) (name : Text) : Option Path :=
  (relativePath? name).map directory.join

end ViewName

end CompiledViews
