import Polylex.Languages.Ecmascript

/-!
# TypeScript

ECMAScript with the keywords of the type level.
-/

set_option maxRecDepth 4000

namespace Polylex.Languages

namespace Typescript

def extending (base : Grammar) : Builder :=
  Builder.extending base (lit "typescript")
    |>.addAliases [lit "ts", lit "tsx"]
    |>.addKeywords (lit
      "abstract any as asserts bigint boolean declare enum implements infer interface is keyof")
    |>.addKeywords (lit
      "module namespace never number object override private protected public readonly satisfies")
    |>.addKeywords (lit "string symbol type unique unknown")

def grammar : Grammar := (extending Ecmascript.grammar).grammar

end Typescript

/-- TypeScript extends the grammar that is registered for ECMAScript. -/
def typescript : Definition where
  id := lit "typescript"
  requires := [lit "es"]
  build registry :=
    match registry.find? (lit "es") with
    | none => .error (.missingRequirement (lit "typescript") (lit "es"))
    | some entry => (Typescript.extending entry.grammar).build

end Polylex.Languages
