import BracketDecoration.Text.Lines
import BracketDecoration.Uri.Parser

namespace BracketDecoration.Editor

/-- Documents are told apart by the written forms of their addresses. -/
structure DocumentKey where
  text : String
deriving DecidableEq, Repr

namespace DocumentKey

def ofUri (uri : Uri) : DocumentKey := ⟨uri.text⟩

def compare (left right : DocumentKey) : Ordering :=
  Ord.compare left.text right.text

end DocumentKey

/-- The language is named as the editor names it. -/
structure Document where
  uri : Uri
  language : String
  text : String
  lineCount : Nat
deriving DecidableEq, Repr

def supportedSchemes : List String := ["file", "untitled", "vsls"]

namespace Document

/-- A document whose line count is that of its text unless it is given. -/
def make (uri : Uri) (language text : String) (lineCount? : Option Nat) : Document :=
  ⟨uri, language, text, lineCount?.getD (Text.lineCount text)⟩

def key (document : Document) : DocumentKey := .ofUri document.uri

def isValid (document : Document) : Bool :=
  0 < document.lineCount && supportedSchemes.contains document.uri.scheme

end Document

end BracketDecoration.Editor
