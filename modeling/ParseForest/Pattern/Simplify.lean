import ParseForest.Pattern.Basic

namespace ParseForest
namespace Pattern

/-!
# Putting patterns together

Whoever puts patterns together uses the functions of this module, which
simplify as they go: sets of one character become that character, neighbouring
characters become texts, alternatives of single characters become sets, and
repetitions of repetitions become one.
-/

/-- A single character; a set of one code point is that code point, and the
complement of such a set is everything but that code point. -/
def Single.simple : Single → Single
  | .among set =>
    match set.code? with
    | some code => if set.members.negated then .isNot code else .is code
    | none => .among set
  | other => other

/-- A pattern that is going to be a part of another one.  A lazy repetition of a
set stays as it is. -/
def asPart : Pattern → Pattern
  | .single mode what => .single mode what.simple
  | .singles mode what false least most => .singles mode what.simple false least most
  | p => p

/-! ## One after the other -/

/-- The parts of a sequence inside of a sequence. -/
def spliced (backwards : Bool) : Pattern → List Pattern
  | .seq inner parts => if inner = backwards then parts else [.seq inner parts]
  | p => [p]

/-- The code points of a text or of a single code point, with the way they are
compared. -/
def codes? : Pattern → Option (Mode × List Nat)
  | .single mode (.is code) => some (mode, [code])
  | .text mode codes => some (mode, codes)
  | _ => none

/-- Join neighbouring code points that are compared in the same way.  Empty
parts are left out. -/
def joinTexts : List Pattern → List Pattern
  | [] => []
  | p :: rest =>
    match p with
    | .empty => joinTexts rest
    | p =>
      let joined := joinTexts rest
      match codes? p, joined with
      | some (mode, codes), next :: others =>
        match codes? next with
        | some (mode', codes') =>
          if mode = mode' then
            .text mode (if mode.backwards then codes' ++ codes else codes ++ codes') :: others
          else p :: joined
        | none => p :: joined
      | _, _ => p :: joined

/-- The only entry of a list, or what `several` makes of the entries if there
is not exactly one. -/
def unwrap (none : Pattern) (several : List Pattern → Pattern) : List Pattern → Pattern
  | [] => none
  | [p] => p
  | parts => several parts

/-- Parts one after the other, in the order in which they stand in the
notation. -/
def inSequence (backwards : Bool) (parts : List Pattern) : Pattern :=
  let ordered := if backwards then parts.reverse else parts
  unwrap .empty (.seq backwards) (joinTexts (ordered.flatMap (spliced backwards)))

/-! ## One of several -/

/-- The set of a single character that can be joined with others. -/
def set? : Pattern → Option (Mode × CharSet)
  | .single mode (.is code) => some (mode, .ofCode code)
  | .single mode (.among set) => if set.isMergeable then some (mode, set) else none
  | _ => none

/-- The choices of an alternative inside of an alternative. -/
def choices : Pattern → List Pattern
  | .alt inner => inner
  | .nothing => []
  | p => [p]

/-- Join neighbouring alternatives that are single characters compared in the
same way. -/
def joinSets (before : List Pattern) : List Pattern → List Pattern
  | [] => before.reverse
  | p :: rest =>
    match set? p, before with
    | some (mode, set), last :: others =>
      match set? last with
      | some (mode', set') =>
        if mode = mode' then joinSets (.single mode (.among (set'.add set)) :: others) rest
        else joinSets (p :: before) rest
      | none => joinSets (p :: before) rest
    | _, _ => joinSets (p :: before) rest

def oneOf (alternatives : List Pattern) : Pattern :=
  unwrap .nothing .alt (joinSets [] (alternatives.flatMap choices))

/-! ## Several times -/

def product (inner outer : Nat) : Nat :=
  if inner = 0 then 0
  else if (unlimited - 1) / inner < outer then unlimited
  else inner * outer

/-- Whether repeating something between `least` and `most` times, and that at
least `outer` times, leaves gaps in the numbers of repetitions. -/
def leavesGaps (outer least most : Nat) : Bool :=
  (outer = 0 && 1 < least) || most < 2 * least

/-- A repetition of a pattern that is a group or more than a single character.
If the pattern is a repetition itself, of the same kind and without gaps, the
numbers are multiplied. -/
def repeated (isLazy : Bool) (least most : Nat) (body : Pattern) : Pattern :=
  if least = unlimited then .nothing
  else
    match body with
    | .loop inner least' most' body =>
      if inner = isLazy && !leavesGaps least least' most' then
        .loop isLazy (product least' least) (product most' most) body
      else .loop isLazy least most (.loop inner least' most' body)
    | .singles mode what inner least' most' =>
      if inner = isLazy && !leavesGaps least least' most' then
        .singles mode what isLazy (product least' least) (product most' most)
      else .loop isLazy least most (.singles mode what inner least' most')
    | body => .loop isLazy least most body

/-- A pattern several times, as a part of another one.  A single character that
stands by itself, not in a group, is repeated as such. -/
def times (isLazy : Bool) (least most : Nat) (grouped : Bool) (p : Pattern) : Pattern :=
  if least = 0 && most = 0 then .empty
  else if least = 1 && most = 1 then if grouped then p else asPart p
  else
    match grouped, p with
    | false, .single mode what => asPart (.singles mode what isLazy least most)
    | _, p => repeated isLazy least most p

end Pattern
end ParseForest
