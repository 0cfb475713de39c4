/-!
# Patterns of selectors

A pattern is a selector, or a selector with wildcards. A wildcard stands for any run of
characters other than line feeds, and a pattern with wildcards has to fit the whole selector.
Every selector also fits the pattern that is equal to it.
-/

namespace CriticalCss.Selector

def wildcard : Char := '%'

/-- The text fits the pattern, wildcards standing for runs of characters. -/
def fits : (pattern text : List Char) → Bool
  | [], text => text.isEmpty
  | p :: pattern, [] => p == wildcard && fits pattern []
  | p :: pattern, c :: text =>
    if p == wildcard then fits pattern (c :: text) || (c != '\n' && fits (p :: pattern) text)
    else p == c && fits pattern text
termination_by pattern text => pattern.length + text.length

def matchesPattern (pattern selector : String) : Bool :=
  pattern == selector ||
    (pattern.toList.contains wildcard && fits pattern.toList selector.toList)

/-- The selector matches one of the patterns. -/
def matchesAny (patterns : List String) (selector : String) : Bool :=
  patterns.any fun pattern => matchesPattern pattern selector

end CriticalCss.Selector
