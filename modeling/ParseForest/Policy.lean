import ParseForest.Text.Quoted

namespace ParseForest

/-!
# Policies for repeated trees

When two complete arcs apply the same rule to the same span, a policy decides
whether the later one is a repetition.  Policies are numbered; a number without
a name is accepted and never merges trees that were built separately.
-/

/-- How complete arcs over one span and rule are told apart. -/
inductive Policy where
  /-- Not at all: the first one stands for all. -/
  | span
  /-- By the labels and spans of their trees. -/
  | shape
  /-- By the identity of their trees. -/
  | identity
  /-- A number without a name, which acts like `identity`. -/
  | unnamed (code : Int)
  deriving DecidableEq

namespace Policy

def ofCode (code : Int) : Policy :=
  if code = 0 then .span
  else if code = 1 then .shape
  else if code = 2 then .identity
  else .unnamed code

def code : Policy → Int
  | .span => 0
  | .shape => 1
  | .identity => 2
  | .unnamed code => code

def text : Policy → Text
  | .span => "span"
  | .shape => "structure"
  | .identity => "identity"
  | .unnamed code => "Dedup(" ++ Text.ofInt code ++ ")"

/-- There is no policy of this name. -/
structure UnknownName where
  name : Text
  deriving DecidableEq

def UnknownName.message (e : UnknownName) : Text :=
  "unknown dedup policy " ++ Text.quoted e.name ++ " (expected span, structure or identity)"

def ofName (name : Text) : Except UnknownName Policy :=
  match [Policy.span, .shape, .identity].find? (·.text = name) with
  | some policy => .ok policy
  | none => .error ⟨name⟩

end Policy
end ParseForest
