import QualityScale.FileTree
import QualityScale.Integration
import QualityScale.Source.Line

/-!
# Modules of an integration

The modules of an integration are the files with the ending `.py` in its directory.
-/

namespace QualityScale.Integration

/-- The file of a module. -/
def moduleFile (i : Integration) (module : String) : Path :=
  i.path.child (module ++ ".py")

/-- Whether the module's file is there. -/
def hasModule (i : Integration) (files : FileTree) (module : String) : Bool :=
  files.isFile (i.moduleFile module)

/-- The text of a module, if it is there and is text. -/
def moduleText? (i : Integration) (files : FileTree) (module : String) : Option String :=
  (files.text (i.moduleFile module)).toOption

/-- Whether a module is there, is text, and answers a question about its source with yes. -/
def moduleShows (i : Integration) (files : FileTree) (module : String)
    (question : List Char → Bool) : Bool :=
  (i.moduleText? files module).any fun text => question text.toList

end QualityScale.Integration
