import Polylex.Text.Basic

/-!
# Embeddings

Where the body of a construct goes that holds text of another language, and the functions by which
a grammar chooses from what the source says: the name and type of a tag, or the text behind a fence.
-/

namespace Polylex

/-- Where an embedded body goes. -/
inductive Embedding
  /-- To the grammar that is registered under a name. -/
  | language (name : Text)
  /-- Nowhere: it stays one piece of text. -/
  | verbatim
  deriving DecidableEq, Repr

/-- Chooses from the name of a tag and the value of its `type` attribute; without a choice the body
is ordinary markup. -/
abbrev TagSelector := (tag : Text) → (type : Option Text) → Option Embedding

/-- Chooses from the text between a fence and the end of its line. -/
abbrev FenceSelector := (info : Text) → Option Embedding

namespace TagSelector

def never : TagSelector := fun _ _ => none

def verbatim : TagSelector := fun _ _ => some .verbatim

def byName : TagSelector := fun tag _ => some (.language tag)

def byType : TagSelector := fun _ type => type.map .language

end TagSelector

namespace FenceSelector

def never : FenceSelector := fun _ => none

def verbatim : FenceSelector := fun _ => some .verbatim

def byInfo : FenceSelector := fun info => some (.language info)

end FenceSelector
end Polylex
