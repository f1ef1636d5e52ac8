import ParseForest.Pattern.Backslash

namespace ParseForest
namespace Pattern

/-!
# Counting groups

A first pass over a pattern finds its groups, because a back reference may stand
in front of its group and because named groups are numbered behind the others.
What is wrong with the pattern does not matter in this pass, apart from a number
that is too large: the second pass is going to find it.
-/

open Reading (rest goTo accept options)

/-- What is known while groups are counted: the groups so far, and the options
outside the open parentheses. -/
structure Count where
  groups : Groups := {}
  outer : List Options := []

namespace Count

def noteSlot (c : Count) (slot : Nat) : Count :=
  { c with groups := c.groups.noteSlot slot }

/-- Note a name, unless it is empty. -/
def noteName (c : Count) (name : List Char) : Count :=
  if name.isEmpty then c else { c with groups := c.groups.noteName name }

/-- Note the name or number that stands here.  Zero begins neither. -/
def noteHere (c : Count) : Reading Count := do
  match ← rest with
  | d :: _ =>
    if d = '0' then return c
    else if d.isDigit then return c.noteSlot (← number)
    else return c.noteName (← name)
  | [] => return c

def opening (c : Count) : Reading Count := do
  let outer := (← options) :: c.outer
  let inside := { c with outer := outer }
  match ← rest with
  | '?' :: '<' :: d :: cs =>
    goTo (d :: cs)
    let c ← inside.noteHere
    modify ({ · with inCondition := false })
    return c
  | '?' :: '\'' :: d :: cs =>
    goTo (d :: cs)
    let c ← inside.noteHere
    modify ({ · with inCondition := false })
    return c
  | '?' :: 'P' :: '<' :: d :: cs =>
    goTo (d :: cs)
    let name ← name
    modify ({ · with inCondition := false })
    return inside.noteName name
  | '?' :: cs =>
    switchOptions true cs
    match ← rest with
    | ')' :: more =>
      goTo more
      modify ({ · with inCondition := false })
      return c
    | '(' :: _ =>
      modify ({ · with inCondition := true })
      return inside
    | _ =>
      modify ({ · with inCondition := false })
      return inside
  | _ =>
    let s ← get
    set { s with inCondition := false }
    if s.options.explicitOnly || s.inCondition then return inside
    else
      modify ({ · with next := s.next + 1 })
      return inside.noteSlot s.next

/-- Count the groups of the rest of a pattern. -/
def all : (fuel : Nat) → Count → Reading Count
  | 0, c => return c
  | fuel + 1, c => do
    match ← rest with
    | [] => return c
    | d :: cs =>
      goTo cs
      match d with
      | '\\' =>
        if !cs.isEmpty then
          let _ ← (backslash c.groups true *> pure ()) <|> pure ()
        all fuel c
      | '[' =>
        let _ ← (charSet ⟨false, true⟩ (4 * cs.length + 4) *> pure ()) <|> pure ()
        all fuel c
      | '#' =>
        if (← options).extended then
          goTo (d :: cs)
          skipBlanksGently
        all fuel c
      | ')' =>
        match c.outer with
        | [] => all fuel c
        | o :: outer =>
          modify ({ · with options := o })
          all fuel { c with outer := outer }
      | '(' =>
        if startsComment (d :: cs) then
          goTo (d :: cs)
          skipBlanksGently
          modify ({ · with inCondition := false })
          all fuel c
        else all fuel (← c.opening)
      | _ => all fuel c

end Count

def Groups.ofPattern (cs : List Char) : Except ReadError Groups :=
  match (Count.all (cs.length + 1) {}).run { rest := cs } with
  | .error e _ => .error e
  | .ok c s => .ok (c.groups.settle s.next)

end Pattern
end ParseForest
