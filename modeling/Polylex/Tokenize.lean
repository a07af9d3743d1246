import Polylex.Stream

/-!
# Tokenizing sources

Streams and lists of tokens for sources in a registered language. A malformed source is never an
error; only a language or a variant that does not exist is.
-/

namespace Polylex

inductive TokenizeError
  | unknownLanguage (name : Text)
  | unknownVariant (number : Nat)
  deriving DecidableEq, Repr

def TokenizeError.message : TokenizeError → String
  | unknownLanguage name => s!"unknown source type {quoted name}"
  | unknownVariant number => s!"unknown tokenizer variant {number}"

namespace Variant

def number : Variant → Nat
  | contextual => 1
  | flat => 2

/-- The variant with a number; zero stands for the contextual one. -/
def ofNumber : Nat → Except TokenizeError Variant
  | 0 | 1 => .ok contextual
  | 2 => .ok flat
  | number => .error (.unknownVariant number)

def name : Variant → String
  | contextual => "Contextual"
  | flat => "Flat"

end Variant

structure Options where
  /-- The id or an alias of a grammar. -/
  language : Text := lit "es"
  variant : Variant := .contextual
  deriving DecidableEq

def tokenize (registry : Registry) (source : Text) (options : Options) :
    Except TokenizeError Stream :=
  match registry.find? options.language with
  | none => .error (.unknownLanguage options.language)
  | some entry => .ok (.ofSource registry entry.grammar source options.variant)

/-- The tokens of several sources, each by itself, and the registry with the classifications that
were asked for on the way. -/
def tokenizeAll (registry : Registry) (options : Options) :
    List Text → List (Except TokenizeError (List Token)) × Registry
  | [] => ([], registry)
  | source :: sources =>
    match tokenize registry source options with
    | .error error =>
      let (results, registry) := tokenizeAll registry options sources
      (.error error :: results, registry)
    | .ok stream =>
      let (pulled, last) := stream.drain
      let (results, registry) := tokenizeAll last.registry options sources
      (.ok (pulled.map Prod.fst) :: results, registry)

end Polylex
