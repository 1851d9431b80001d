import Pagewright.Detection.Detect
import Pagewright.Page.Publish

/-!
What uploads and imports report. An import is a success if nothing in it failed, and partial otherwise.
-/

namespace Pagewright.Import

/-- What became of the items of a batch: the ids of those that went through, and a line for every one that
failed. -/
structure Batch where
  succeeded : List String
  errors : List String

namespace Batch

def empty : Batch := ⟨[], []⟩

def isOk (batch : Batch) : Bool := batch.errors.isEmpty

/-- A batch with one more item that went through. -/
def withSuccess (batch : Batch) (id : String) : Batch :=
  { batch with succeeded := batch.succeeded ++ [id] }

/-- A batch with one more item that failed. -/
def withError (batch : Batch) (line : String) : Batch :=
  { batch with errors := batch.errors ++ [line] }

end Batch

/-- What came of an upload. -/
structure Upload where
  project : Project
  detections : Table Detection
  warnings : List String

def Upload.toValue (u : Upload) : Value :=
  .object [("project", u.project.toValue false),
    ("detections", .object (u.detections.mapValues Detection.toValue)),
    ("warnings", .texts u.warnings)]

/-- Which parts of an import are done. -/
structure Options where
  /-- Whether the chosen plugins are installed. -/
  plugins : Bool
  /-- Whether the images go to the media library. -/
  assets : Bool
  /-- Whether the stylesheet is stored and given to the pages. -/
  css : Bool
  /-- Whether the choices are saved as preferences. -/
  remember : Bool

/-- Everything but saving the choices. -/
def Options.standard : Options := ⟨true, true, true, false⟩

/-- What came of an import. -/
structure Report where
  pages : List Page.Published
  plugins : List String
  assets : Nat
  css : Bool
  errors : List String

namespace Report

def isSuccess (r : Report) : Bool := r.errors.isEmpty

/-- How an import went, in one word. -/
def status (r : Report) : String := if r.isSuccess then "success" else "partial"

def pageValue (page : Page.Published) : Value :=
  .object [("page", page.name), ("id", .str page.document), ("sections", .count page.sections)]

def toValue (r : Report) : Value :=
  .object [("status", .str r.status), ("created_pages", .list (r.pages.map pageValue)),
    ("installed_plugins", .texts r.plugins), ("imported_assets", .count r.assets),
    ("css_extracted", .bool r.css), ("errors", .texts r.errors)]

end Report

end Pagewright.Import
