import Polylex.Text.Basic

/-!
# Errors of grammars

What can be wrong with a grammar. All of it is found while the grammar is built or registered;
malformed sources are no errors.
-/

namespace Polylex

inductive MatcherGroup
  | whitespace
  | sequence
  deriving DecidableEq, Repr

def MatcherGroup.name : MatcherGroup → Text
  | whitespace => lit "whitespace"
  | sequence => lit "sequence"

inductive DelimiterFault
  | emptyOpener
  | emptyCloser
  | samePair
  deriving DecidableEq, Repr

def DelimiterFault.reason : DelimiterFault → String
  | emptyOpener => "empty opener"
  | emptyCloser => "empty closer"
  | samePair => "closure opener and closer must differ"

inductive GrammarError
  /-- A pattern of a grammar is refused. -/
  | invalidPattern (grammar name : Text)
  | missingGroup (grammar name : Text) (group : MatcherGroup)
  | malformedDelimiter (grammar opener : Text) (fault : DelimiterFault)
  /-- A grammar needs another one that is not registered. -/
  | missingRequirement (grammar required : Text)
  /-- A name is taken; names are compared in lower case. -/
  | duplicateName (name : Text)
  | missingMatcher (grammar : Text)
  deriving DecidableEq, Repr

def quoted (t : Text) : String := "`" ++ String.ofList t ++ "`"

def GrammarError.message : GrammarError → String
  | invalidPattern grammar name => s!"grammar {quoted grammar}: pattern {quoted name} is invalid"
  | missingGroup grammar name group =>
    s!"grammar {quoted grammar}: matcher {quoted name} has no " ++
      "`(?P<" ++ String.ofList group.name ++ ">...)` capture group"
  | malformedDelimiter grammar opener fault =>
    s!"grammar {quoted grammar}: delimiter {quoted opener} is malformed: {fault.reason}"
  | missingRequirement grammar required =>
    s!"grammar {quoted grammar} requires {quoted required}, which is not registered"
  | duplicateName name => s!"syntax {quoted name} is already registered"
  | missingMatcher grammar => s!"grammar {quoted grammar} has no primary matcher"

end Polylex
