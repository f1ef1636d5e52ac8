import ParseForest.Grammar

namespace ParseForest
namespace Grammar

/-!
# A small English grammar

The built-in grammar covers sentences such as *the boy hits the dog with a
rod*.  Prepositional phrases attach to verb phrases; one more rule lets them
attach to noun phrases as well, which makes that sentence ambiguous.
-/

/-- A rule over nonterminals, from the names of its head and of its parts. -/
def phrase (head : Text) (parts : List Text)
    (sound : Rule.defect? (.nonterminal head) (parts.map .nonterminal) = none := by decide) :
    Rule :=
  ⟨.nonterminal head, parts.map .nonterminal, sound⟩

/-- A rule that tags a word. -/
def word (tag token : Text) : Rule :=
  ⟨.nonterminal tag, [.terminal token], rfl⟩

def englishRules : List Rule :=
  [phrase "sentence" ["np", "vp"],
    phrase "np" ["det", "noun"],
    phrase "np" ["det", "adj", "noun"],
    phrase "vp" ["verb", "np"],
    phrase "vp" ["vp", "pp"],
    phrase "pp" ["prep", "np"],
    word "det" "the",
    word "det" "a",
    word "noun" "boy",
    word "noun" "dog",
    word "noun" "rod",
    word "adj" "smart",
    word "adj" "long",
    word "verb" "hits",
    word "prep" "with"]

/-- The built-in grammar. -/
def english : Definition where
  grammar := .ofRules englishRules
  start := .nonterminal "sentence"

/-- The built-in grammar, in which a prepositional phrase can also belong to a
noun phrase. -/
def englishWithNounAttachment : Definition where
  grammar := .ofRules (englishRules ++ [phrase "np" ["np", "pp"]])
  start := .nonterminal "sentence"

end Grammar
end ParseForest
