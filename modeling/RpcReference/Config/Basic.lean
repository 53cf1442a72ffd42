import RpcReference.Text.Basic
/-!
# Configuration of a document

The front matter of a document: its title, the tabs for code samples, the snippets below the table
of contents, and whether the page has a search box. Settings that are not given have defaults.
-/

namespace RpcReference

/-- The settings of the front matter. -/
structure Config where
  title : Text
  languageTabs : List Text
  tocFooters : List Text
  search : Bool
  deriving DecidableEq, Repr

namespace Config

/-- The settings of a document without a configuration. -/
def standard : Config where
  title := "API Reference".toList
  languageTabs := ["shell".toList, "javascript".toList, "python".toList]
  tocFooters :=
    ["<a href='https://github.com/lord/slate'>Documentation Powered by Slate</a>".toList]
  search := true

/-- The settings that a configuration gives. -/
structure Overrides where
  title : Option Text
  languageTabs : Option (List Text)
  tocFooters : Option (List Text)
  search : Option Bool
  deriving DecidableEq, Repr

def Overrides.empty : Overrides := ⟨none, none, none, none⟩

/-- The given settings, and the defaults for the others. -/
def Overrides.config (o : Overrides) : Config where
  title := o.title.getD standard.title
  languageTabs := o.languageTabs.getD standard.languageTabs
  tocFooters := o.tocFooters.getD standard.tocFooters
  search := o.search.getD standard.search

end Config

end RpcReference
