import ParseForest.Proofs.Json.RoundTrip
import ParseForest.Proofs.Tree.Shape

namespace ParseForest

/-!
# Trees read back from JSON

What is printed for a tree is the JSON value that describes it.  The value keeps
the difference between phrases and tokens in the presence of children and not
in the labels, so a token that starts with the sigil of the nonterminals is no
obstacle.  A tree whose names are UTF-8 comes back whole, up to its numbering.
-/

open Text (byte)

/-! ## Trees as values -/

namespace Span

/-- A span as an array of two numbers. -/
def toJson (s : Span) : Json :=
  .array [.number s.start 0, .number s.stop 0]

/-- The span that an array of two whole numbers describes. -/
def ofJson? : Json → Option Span
  | .array [.number start 0, .number stop 0] => some ⟨start, stop⟩
  | _ => none

theorem ofJson?_toJson (s : Span) : ofJson? s.toJson = some s :=
  rfl

end Span

namespace Tree

/-- The field for a token, left out if the token is empty. -/
def tokenField (token : Text) : List (String × Json) :=
  if token = [] then [] else [("token", .string token.asString)]

/-- The field for the children, left out if there are none. -/
def childrenField (children : List Json) : List (String × Json) :=
  if children.isEmpty then [] else [("children", .array children)]

mutual

/-- The value that describes a tree. -/
def toJson : Tree → Json
  | .leaf _ span token =>
    .object (("head", .string token.asString) :: (tokenField token ++ [("span", span.toJson)]))
  | .node _ span head children =>
    .object (("head", .string head.text.asString) :: ("span", span.toJson)
      :: childrenField (toJsonAll children))

/-- The values that describe several trees. -/
def toJsonAll : List Tree → List Json
  | [] => []
  | t :: ts => toJson t :: toJsonAll ts

end

@[simp]
theorem toJsonAll_eq_map (ts : List Tree) : toJsonAll ts = ts.map toJson := by
  induction ts with
  | nil => rfl
  | cons t ts ih => rw [toJsonAll, ih, List.map_cons]

/-! ## What is printed is the value -/

theorem ofString_comma : Text.ofString "," = [byte ','] :=
  rfl

theorem ofString_bracket : Text.ofString "]" = [byte ']'] :=
  rfl

theorem ofString_braces :
    Text.ofString "\x7b" = [byte '\x7b'] ∧ Text.ofString "\x7d" = [byte '\x7d'] :=
  ⟨rfl, rfl⟩

theorem memberAt_head (level : Nat) (text : Text) :
    Json.memberAt level ("head", .string text.asString) = "\"head\": " ++ text.json := by
  have name : (Text.ofString "head").json ++ Text.ofString ": " = "\"head\": " := by
    rw [Text.json_ofString]
    rfl
  rw [Json.memberAt, Json.indentedAt, name, Text.json_asString]

theorem memberAt_span (level : Nat) (span : Span) :
    Json.memberAt level ("span", span.toJson) = jsonSpan level span := by
  have name : (Text.ofString "span").json ++ Text.ofString ": " = "\"span\": " := by
    rw [Text.json_ofString]
    rfl
  have opened : Text.ofString "\"span\": [" = Text.ofString "\"span\": " ++ [byte '['] := rfl
  have whole (i : Int) : (Json.number i 0).indentedAt (level + 1) = Text.ofInt i :=
    List.append_nil _
  rw [Json.memberAt, name, jsonSpan, opened, ofString_comma, ofString_bracket, Span.toJson,
    Json.indentedAt, Json.itemsAt_eq_map, List.map_cons, List.map_singleton, Json.enclosed_cons,
    whole, whole, Json.following_cons, Json.following, List.flatMap_nil, List.append_nil]
  simp only [List.append_assoc, List.cons_append, List.nil_append]

theorem following_tokenField (level : Nat) (token : Text) (others : List Text) :
    Json.following level ((tokenField token).map (Json.memberAt level) ++ others) =
      jsonToken level token ++ Json.following level others := by
  have name : (Text.ofString "token").json ++ Text.ofString ": " = "\"token\": " := by
    rw [Text.json_ofString]
    rfl
  unfold tokenField jsonToken
  split
  · rfl
  · rw [List.map_singleton, List.singleton_append, Json.following_cons, Json.memberAt, name,
      Json.indentedAt, Text.json_asString, ofString_comma]
    simp only [List.append_assoc, List.cons_append, List.nil_append]

mutual

/-- A tree is printed as the value that describes it. -/
theorem jsonAt_eq : (t : Tree) → ∀ level, t.jsonAt level = t.toJson.indentedAt level
  | .leaf serial span token, level => by
      rw [jsonAt, toJson, Json.indentedAt, Json.membersAt_eq_map, List.map_cons, List.map_append,
        Json.enclosed_cons, memberAt_head, following_tokenField, List.map_singleton,
        Json.following_cons, memberAt_span, ofString_comma, ofString_braces.1, ofString_braces.2]
      simp only [Json.following, List.flatMap_nil, List.append_assoc, List.cons_append,
        List.nil_append]
  | .node serial span head children, level => by
      rw [jsonAt, toJson, Json.indentedAt, Json.membersAt_eq_map, List.map_cons, List.map_cons,
        Json.enclosed_cons, memberAt_head, Json.following_cons, memberAt_span,
        jsonChildren_eq children, ofString_comma, ofString_braces.1, ofString_braces.2]
      simp only [List.append_assoc, List.cons_append, List.nil_append]

theorem jsonChildren_eq : (ts : List Tree) → ∀ level, jsonChildren level ts =
    Json.following level ((childrenField (toJsonAll ts)).map (Json.memberAt level))
  | [], level => rfl
  | t :: ts, level => by
      have name : (Text.ofString "children").json ++ Text.ofString ": " = "\"children\": " := by
        rw [Text.json_ofString]
        rfl
      have opened : Text.ofString "\"children\": [" =
          Text.ofString "\"children\": " ++ [byte '['] := rfl
      rw [jsonChildren, toJsonAll_eq_map]
      change _ = Json.following level
        [Json.memberAt level ("children", .array ((t :: ts).map toJson))]
      rw [Json.following_cons, Json.memberAt, name, Json.indentedAt, Json.itemsAt_eq_map,
        List.map_cons, List.map_cons, Json.enclosed_cons, jsonAt_eq t, jsonMore_eq ts, opened,
        ofString_comma, ofString_bracket]
      simp only [Json.following, List.flatMap_nil, List.append_nil, List.append_assoc,
        List.cons_append, List.nil_append]

/-- Behind the first item an array goes on with the values of the other trees. -/
theorem jsonMore_eq : (ts : List Tree) → ∀ level,
    jsonMore level ts = Json.following level ((ts.map toJson).map (Json.indentedAt level))
  | [], level => rfl
  | t :: ts, level => by
      rw [List.map_cons, List.map_cons, Json.following_cons, jsonMore, jsonAt_eq t, jsonMore_eq ts]
      simp only [List.append_assoc]
      rfl

end

/-! ## Depth -/

theorem depthOfMembers_tokenField (token : Text) (others : List (String × Json)) :
    Json.depthOfMembers (tokenField token ++ others) = Json.depthOfMembers others := by
  unfold tokenField
  split
  · rfl
  · rw [List.singleton_append, Json.depthOfMembers, Json.depth, Nat.zero_max]

theorem depth_toJson_span (span : Span) : span.toJson.depth = 1 := by
  simp [Span.toJson, Json.depth, Json.depthOfItems]

mutual

/-- The depth of a tree in JSON is that of the value that describes it. -/
theorem jsonDepth_eq : (t : Tree) → t.jsonDepth = t.toJson.depth
  | .leaf serial span token => by
      rw [jsonDepth, toJson, Json.depth, Json.depthOfMembers, depthOfMembers_tokenField,
        Json.depthOfMembers, depth_toJson_span, Json.depth, Json.depthOfMembers]
      rfl
  | .node serial span head children => by
      rw [jsonDepth, toJson, Json.depth, Json.depthOfMembers, Json.depthOfMembers,
        depth_toJson_span, Json.depth]
      cases children with
      | nil => rfl
      | cons t ts =>
          have array : Json.depthOfMembers (childrenField (toJsonAll (t :: ts))) =
              1 + Json.depthOfItems (toJsonAll (t :: ts)) := by
            simp [childrenField, Json.depthOfMembers, Json.depth]
          rw [array, jsonDepthAll_eq (t :: ts)]
          omega

theorem jsonDepthAll_eq : (ts : List Tree) →
    jsonDepthAll ts = Json.depthOfItems (toJsonAll ts)
  | [] => rfl
  | t :: ts => by
      rw [jsonDepthAll, toJsonAll, Json.depthOfItems, jsonDepth_eq t, jsonDepthAll_eq ts]

end

/-! ## Values as trees -/

/-- The phrase over the children whose label is written as `head`. -/
def phrase? (span : Span) (head : String) (children : List Tree) : Option Tree :=
  match Symbol.ofText (.ofString head) with
  | .nonterminal name => some (.node 0 span (.nonterminal name) children)
  | .terminal _ => none

/-- The token that is written as `head`, and once more as `token` if that is
present. -/
def token? (span : Span) (head : String) (token : Option Json) : Option Tree :=
  match token with
  | none => some (.leaf 0 span (.ofString head))
  | some (.string token) =>
    if token = head then some (.leaf 0 span (.ofString head)) else none
  | some _ => none

mutual

/-- The tree that a value describes.  An object with children is a phrase, and
one without is a token. -/
def ofJson? : Json → Option Tree
  | .object fields => do
    let .string head ← fields.lookup "head" | none
    let span ← (fields.lookup "span").bind Span.ofJson?
    match ← childrenOf? fields with
    | some children => phrase? span head children
    | none => token? span head (fields.lookup "token")
  | _ => none

/-- The children among the fields of an object, if it has any. -/
def childrenOf? : List (String × Json) → Option (Option (List Tree))
  | [] => some none
  | (name, v) :: fields => if name = "children" then (itemsOf? v).map some else childrenOf? fields

/-- The trees that the items of an array describe. -/
def itemsOf? : Json → Option (List Tree)
  | .array items => allOf? items
  | _ => none

/-- The trees that several values describe. -/
def allOf? : List Json → Option (List Tree)
  | [] => some []
  | v :: items => do
    let t ← ofJson? v
    let ts ← allOf? items
    return t :: ts

end

/-! ## The tree comes back -/

/-- The names in the tree are UTF-8. -/
def IsNamed (t : Tree) : Prop :=
  ∀ u : Tree, u.Within t → u.head.name.isUtf8 = true

theorem IsNamed.of_mem {t c : Tree} (named : t.IsNamed) (member : c ∈ t.children) : c.IsNamed :=
  fun u part => named u (.inside member part)

theorem ofJson?_leaf (serial : Nat) (span : Span) {token : Text} (valid : token.isUtf8 = true) :
    ofJson? (toJson (.leaf serial span token)) = some (.leaf 0 span token) := by
  have spelled := Text.ofString_asString valid
  rw [toJson, ofJson?]
  by_cases empty : token = []
  · have missing : token? span token.asString none = some (.leaf 0 span token) := by
      rw [token?, spelled]
    simpa [tokenField, empty, List.lookup_cons, childrenOf?, Span.ofJson?_toJson] using missing
  · have repeated : token? span token.asString (some (.string token.asString)) =
        some (.leaf 0 span token) := by
      rw [token?, if_pos rfl, spelled]
    simpa [tokenField, empty, List.lookup_cons, childrenOf?, Span.ofJson?_toJson] using repeated

theorem ofJson?_node (serial : Nat) (span : Span) {name : Text} (valid : name.isUtf8 = true)
    {children children' : List Tree} (nonempty : children ≠ [])
    (parts : allOf? (children.map toJson) = some children') :
    ofJson? (toJson (.node serial span (.nonterminal name) children)) =
      some (.node 0 span (.nonterminal name) children') := by
  have spelled : Text.ofString (Symbol.text (.nonterminal name)).asString = Symbol.sigil :: name :=
    Text.ofString_asString (Text.isUtf8_cons (by decide) valid)
  have label : phrase? span (Symbol.text (.nonterminal name)).asString children' =
      some (.node 0 span (.nonterminal name) children') := by
    rw [phrase?, spelled, Symbol.ofText, if_pos rfl]
  rw [toJson, ofJson?, toJsonAll_eq_map]
  simpa [childrenField, nonempty, List.lookup_cons, childrenOf?, itemsOf?, parts,
    Span.ofJson?_toJson] using label

theorem allOf?_map {ts : List Tree} (parts : ∀ t ∈ ts, ofJson? t.toJson = some t.shape) :
    allOf? (ts.map toJson) = some (ts.map shape) := by
  induction ts with
  | nil => rfl
  | cons t ts ih =>
      rw [List.map_cons, allOf?, parts t (List.mem_cons_self ..),
        ih fun u member => parts u (List.mem_cons_of_mem t member)]
      rfl

/-- A derivation tree is recovered from its value, up to its numbering. -/
theorem Derivation.ofJson?_toJson {g : Grammar} {tokens : List Text} {t : Tree}
    (derived : t.Derivation g tokens) (named : t.IsNamed) : ofJson? t.toJson = some t.shape := by
  induction derived with
  | leaf serial k token found => exact ofJson?_leaf serial _ (named _ (.self _))
  | node serial span r children member labels tiled parts ih =>
      have nonempty : children ≠ [] := by
        rintro rfl
        exact r.rhs_ne_nil labels.symm
      have valid := named _ (.self _)
      have phrase := r.head_isTerminal
      rw [head_node] at valid
      rw [shape_node]
      cases label : r.head with
      | terminal token =>
          rw [label] at phrase
          cases phrase
      | nonterminal name =>
          rw [label] at valid
          exact ofJson?_node serial span valid nonempty
            (allOf?_map fun c inside => ih c inside (named.of_mem inside))

end Tree
end ParseForest
