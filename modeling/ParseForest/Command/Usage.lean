import ParseForest.Command.Basic

namespace ParseForest
namespace Command

/-!
# Usage

How each command is called.  The text for the root also follows an error in its
flags.
-/

/-- The lines on the flag that every command has from the root. -/
def verbosityUsage : Text :=
  "  -v, --verbose count   log verbosity (repeat for more detail)\n"

def parseFlagUsage : Text :=
  "      --batch              treat blank-line separated blocks as separate sentences
      --dedup string       completed arc dedup policy: span keeps one tree per rule and span and can omit distinct parses; structure keeps every distinct tree; identity keeps every derivation (default \"span\")
  -f, --format string      output format (tree, sexp, json) (default \"tree\")
  -g, --grammar string     EBNF grammar file (default: built-in English grammar)
  -h, --help               help for parse
  -j, --jobs int           sentences parsed concurrently in --batch mode
      --np-attachment      add np --> np pp to the built-in grammar
      --separator string   token separator pattern (default \"\\\\s+\")
  -s, --start string       start symbol (default: $sentence, or the first production of --grammar)
      --trace              dump the chart to stderr before each step
"

def usage : Command → Text
  | .parse =>
    "Usage:\n  earley parse [file] [flags]\n\nFlags:\n" ++ parseFlagUsage
      ++ "\nGlobal Flags:\n" ++ verbosityUsage
  | .grammar =>
    "Usage:\n  earley grammar [command]\n\nAvailable Commands:
  check       Parse an EBNF grammar file and verify it converts to parser rules
  show        Print the rules of a grammar (the built-in grammar without a file)

Flags:
  -h, --help   help for grammar

Global Flags:\n" ++ verbosityUsage
      ++ "\nUse \"earley grammar [command] --help\" for more information about a command.\n"
  | .checkGrammar =>
    "Usage:\n  earley grammar check <file> [flags]\n\nFlags:
  -h, --help           help for check
      --start string   start production for reachability verification (if empty, only checks syntax)

Global Flags:\n" ++ verbosityUsage
  | .showGrammar =>
    "Usage:\n  earley grammar show [file] [flags]\n\nFlags:
  -h, --help            help for show
      --np-attachment   add np --> np pp to the built-in grammar

Global Flags:\n" ++ verbosityUsage
  | _ =>
    "Usage:\n  earley [command]\n\nAvailable Commands:
  completion  Generate the autocompletion script for the specified shell
  grammar     Grammar tools
  help        Help about any command
  parse       Parse tokens from a file or standard input and print every parse tree

Flags:
  -h, --help            help for earley\n" ++ verbosityUsage
      ++ "\nUse \"earley [command] --help\" for more information about a command.\n"

/-- What a command is for. -/
def purpose : Command → Text
  | .parse =>
    "Parse reads whitespace separated tokens (one per line works too), runs the
Earley algorithm and prints the number of parses followed by each tree.

Without --grammar the built-in English grammar with start symbol $sentence is used.\n"
  | .grammar => "Grammar tools\n"
  | .checkGrammar => "Parse an EBNF grammar file and verify it converts to parser rules\n"
  | .showGrammar => "Print the rules of a grammar (the built-in grammar without a file)\n"
  | _ => "Parse token sequences with an Earley chart parser\n"

def helpText (c : Command) : Text :=
  c.purpose ++ "\n" ++ c.usage

end Command
end ParseForest
