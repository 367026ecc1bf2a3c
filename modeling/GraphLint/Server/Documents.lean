import GraphLint.Uri.Read
/-! # Open documents

The documents that editors have open, each under its URI.  All connections of a server share one
registry, so a document that one of them opens is there for the others. -/
namespace GraphLint.Server

/-- A document as it was last sent. -/
structure Document where
  /-- The URI of the document as it is written. -/
  name : Text
  text : Text
  /-- The editor's identifier for the language. -/
  language : Text
  deriving DecidableEq, Repr

/-- Documents under their URIs, at most one under each. -/
structure Registry where
  entries : List (Uri × Document) := []
  deriving DecidableEq, Repr

namespace Registry

/-- The document under a URI. -/
def get? (r : Registry) (uri : Uri) : Option Document := r.entries.lookup uri

/-- Without the document under a URI. -/
def erase (r : Registry) (uri : Uri) : Registry := ⟨r.entries.filter fun e => e.1 ≠ uri⟩

/-- With a document under a URI, in the place of the one that is there. -/
def insert (r : Registry) (uri : Uri) (d : Document) : Registry :=
  ⟨(uri, d) :: (r.erase uri).entries⟩

/-- The number of documents. -/
def size (r : Registry) : Nat := r.entries.length

/-- The language of the document under a URI; it is empty if there is none. -/
def language (r : Registry) (uri : Uri) : Text := ((r.get? uri).map (·.language)).getD []

/-- With a text under a URI, in the language that is known for it. -/
def insertText (r : Registry) (uri : Uri) (text : Text) : Registry :=
  r.insert uri ⟨uri.print, text, r.language uri⟩

end Registry
end GraphLint.Server
