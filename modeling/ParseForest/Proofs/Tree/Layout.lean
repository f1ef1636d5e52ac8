import Mathlib.Data.List.Basic
import ParseForest.Tree.Indented
import ParseForest.Proofs.Tree.Shape

namespace ParseForest
namespace Tree

/-!
# Trees written out beside their sentence

The bracketed expression of a tree and its lines are one and the same text up
to what stands around the entries.  Tokens are written as they are, with quotes,
parentheses and line feeds of their own, so such a text has no reading by itself.
Beside the sentence it has one: where two trees are written alike, they are read
together from left to right, and whenever both come to a token it is the same
token, because they are at the same position of the sentence.  What remains to be
told apart are the marks that the layout puts in itself.
-/

open Text (byte)

/-- What a layout puts around the entries of a tree. -/
structure Layout where
  /-- What stands in front of an entry at a level. -/
  lead : Nat → Text
  /-- What stands in front of the parenthesis that closes an entry at a level. -/
  back : Nat → Text
  /-- What stands behind a label, a token and a closing parenthesis. -/
  tail : Text

namespace Layout

/-- All entries on one line, with a space between neighbours. -/
def oneLine : Layout where
  lead level := if level = 0 then [] else [byte ' ']
  back _ := []
  tail := []

/-- One line for each entry, indented by four more spaces a level. -/
def manyLines : Layout where
  lead level := Text.blanks (4 * level)
  back level := Text.blanks (4 * level)
  tail := Text.lineEnd

mutual

/-- A tree written out at a level. -/
def write (layout : Layout) (level : Nat) : Tree → Text
  | .leaf _ _ token =>
    layout.lead level ++ byte '\'' :: (token ++ byte '\'' :: layout.tail)
  | .node _ _ head children =>
    layout.lead level ++ byte '(' :: (head.text ++ (layout.tail
      ++ (writeAll layout (level + 1) children
        ++ (layout.back level ++ byte ')' :: layout.tail))))

/-- Several trees written out at a level. -/
def writeAll (layout : Layout) (level : Nat) : List Tree → Text
  | [] => []
  | t :: ts => write layout level t ++ writeAll layout level ts

end

/-! ## The two layouts -/

mutual

theorem oneLine_write : (t : Tree) → ∀ level, oneLine.write level t = oneLine.lead level ++ t.text
  | .leaf serial span token, level => by
      rw [write, text]
      simp [oneLine, show Text.ofString "'" = [byte '\''] from rfl]
  | .node serial span head children, level => by
      rw [write, text, oneLine_writeAll children]
      simp [oneLine, show Text.ofString "(" = [byte '('] from rfl,
        show Text.ofString ")" = [byte ')'] from rfl]

theorem oneLine_writeAll : (ts : List Tree) → ∀ level, oneLine.writeAll (level + 1) ts = textAll ts
  | [], _ => rfl
  | t :: ts, level => by
      rw [writeAll, textAll, oneLine_write t, oneLine_writeAll ts]
      rfl

end

mutual

theorem manyLines_write : (t : Tree) → ∀ level, manyLines.write level t = t.indentedAt level
  | .leaf serial span token, level => by
      rw [write, indentedAt]
      simp [manyLines, Text.lineEnd, show Text.ofString "'" = [byte '\''] from rfl,
        show Text.ofString "'\n" = [byte '\'', byte '\n'] from rfl,
        show Text.ofString "\n" = [byte '\n'] from rfl]
  | .node serial span head children, level => by
      rw [write, indentedAt, manyLines_writeAll children]
      simp [manyLines, Text.lineEnd, show Text.ofString "(" = [byte '('] from rfl,
        show Text.ofString ")\n" = [byte ')', byte '\n'] from rfl,
        show Text.ofString "\n" = [byte '\n'] from rfl]

theorem manyLines_writeAll : (ts : List Tree) → ∀ level,
    manyLines.writeAll level ts = indentedAllAt level ts
  | [], _ => rfl
  | t :: ts, level => by
      rw [writeAll, indentedAllAt, manyLines_write t, manyLines_writeAll ts]

end

/-- Where the children of an entry begin and end can be seen: a mark stands
between a label and the first child, and a space stands in front of a child where
the closing parenthesis would stand. -/
structure Readable (layout : Layout) (mark : UInt8) : Prop where
  marked : ∀ level, ∃ rest, layout.tail ++ layout.lead (level + 1) = mark :: rest
  deeper : ∀ level, ∃ rest, layout.lead (level + 1) = layout.back level ++ byte ' ' :: rest

theorem readable_oneLine : oneLine.Readable (byte ' ') where
  marked _ := ⟨[], rfl⟩
  deeper _ := ⟨[], rfl⟩

theorem readable_manyLines : manyLines.Readable (byte '\n') where
  marked level := ⟨Text.blanks (4 * (level + 1)), rfl⟩
  deeper level := ⟨Text.blanks 3, by
    simp only [manyLines, Text.blanks, Nat.mul_add, Nat.mul_one, List.replicate_add]
    rfl⟩

/-! ## Reading two trees together -/

variable {layout : Layout} {mark : UInt8} {g g' : Grammar} {tokens : List Text}

/-- Among the derivation trees from the position where it begins, the tree is
found from any text that begins with what is written for it. -/
def Determines (layout : Layout) (g : Grammar) (tokens : List Text) (t : Tree) : Prop :=
  ∀ (u : Tree) (level : Nat) (rest rest' : Text), u.Derivation g tokens →
    t.span.start = u.span.start → layout.write level t ++ rest = layout.write level u ++ rest' →
    t.shape = u.shape ∧ rest = rest'

theorem exists_write_eq (layout : Layout) (level : Nat) (t : Tree) :
    ∃ rest, layout.write level t = layout.lead level ++ rest := by
  cases t with
  | leaf => exact ⟨_, rfl⟩
  | node => exact ⟨_, rfl⟩

theorem Readable.exists_mark (readable : layout.Readable mark) (level : Nat) {ts : List Tree}
    (some : ts ≠ []) (rest : Text) :
    ∃ rest', layout.tail ++ (layout.writeAll (level + 1) ts ++ rest) = mark :: rest' := by
  cases ts with
  | nil => exact absurd rfl some
  | cons t ts =>
      rcases layout.exists_write_eq (level + 1) t with ⟨entry, written⟩
      rcases readable.marked level with ⟨front, marked⟩
      refine ⟨front ++ (entry ++ (layout.writeAll (level + 1) ts ++ rest)), ?_⟩
      rw [writeAll, written]
      simp only [← List.append_assoc]
      rw [marked]
      simp only [List.append_assoc, List.cons_append]

/-- A child does not begin the way its siblings end. -/
theorem Readable.child_ne_close (readable : layout.Readable mark) (level : Nat) (t : Tree)
    (rest rest' : Text) :
    layout.write (level + 1) t ++ rest ≠ layout.back level ++ byte ')' :: rest' := by
  intro same
  rcases layout.exists_write_eq (level + 1) t with ⟨entry, written⟩
  rcases readable.deeper level with ⟨front, deeper⟩
  rw [written, deeper] at same
  simp only [List.append_assoc, List.append_cancel_left_eq, List.cons_append,
    List.cons.injEq] at same
  exact absurd same.1 (by decide)

/-- Rows of children that begin together are read together up to the parenthesis
that closes both. -/
theorem Readable.shapes_eq (readable : layout.Readable mark) {ts us : List Tree} {i j k : Int}
    {level : Nat} {rest rest' : Text} (determined : ∀ t ∈ ts, layout.Determines g tokens t)
    (derived : ∀ u ∈ us, u.Derivation g tokens) (tiled : Tiled i ts j) (tiled' : Tiled i us k)
    (same : layout.writeAll (level + 1) ts ++ (layout.back level ++ byte ')' :: rest) =
      layout.writeAll (level + 1) us ++ (layout.back level ++ byte ')' :: rest')) :
    ts.map shape = us.map shape ∧ rest = rest' := by
  induction ts generalizing us i with
  | nil =>
      cases us with
      | nil =>
          simp only [writeAll, List.nil_append, List.append_cancel_left_eq, List.cons.injEq] at same
          exact ⟨rfl, same.2⟩
      | cons u us =>
          rw [writeAll, writeAll, List.nil_append, List.append_assoc] at same
          exact absurd same.symm (readable.child_ne_close level u _ _)
  | cons t ts ih =>
      cases us with
      | nil =>
          rw [writeAll, writeAll, List.nil_append, List.append_assoc] at same
          exact absurd same (readable.child_ne_close level t _ _)
      | cons u us =>
          rw [writeAll, writeAll, List.append_assoc, List.append_assoc] at same
          rcases determined t (List.mem_cons_self ..) u (level + 1) _ _
            (derived u (List.mem_cons_self ..)) (tiled.1.trans tiled'.1.symm) same with
            ⟨first, others⟩
          have stops := congrArg Span.stop (span_eq_of_shape first)
          rcases ih (fun c member => determined c (List.mem_cons_of_mem t member))
            (fun c member => derived c (List.mem_cons_of_mem u member)) tiled.2
            (stops ▸ tiled'.2) others with ⟨shapes, after⟩
          exact ⟨by rw [List.map_cons, List.map_cons, first, shapes], after⟩

/-- Texts without the mark are found from any text in which the mark follows. -/
theorem eq_of_marked {label label' rest rest' : Text} (plain : mark ∉ label)
    (plain' : mark ∉ label') (same : label ++ mark :: rest = label' ++ mark :: rest') :
    label = label' ∧ rest = rest' := by
  have front {text after : Text} (plain : mark ∉ text) :
      (text ++ mark :: after).takeWhile (· ≠ mark) = text := by
    rw [List.takeWhile_append_of_pos, List.takeWhile_cons_of_neg (by simp), List.append_nil]
    intro b member
    exact decide_eq_true fun equal => plain (equal ▸ member)
  have labels := congrArg (List.takeWhile (· ≠ mark)) same
  rw [front plain, front plain'] at labels
  subst labels
  exact ⟨rfl, (List.cons.inj (List.append_cancel_left same)).2⟩

/-- Labels without the mark end where their children begin. -/
theorem Readable.label_eq (readable : layout.Readable mark) {level : Nat} {ts us : List Tree}
    (some : ts ≠ []) (some' : us ≠ []) {label label' rest rest' : Text} (plain : mark ∉ label)
    (plain' : mark ∉ label')
    (same : label ++ (layout.tail ++ (layout.writeAll (level + 1) ts ++ rest)) =
      label' ++ (layout.tail ++ (layout.writeAll (level + 1) us ++ rest'))) :
    label = label' ∧
      layout.writeAll (level + 1) ts ++ rest = layout.writeAll (level + 1) us ++ rest' := by
  rcases readable.exists_mark level some rest with ⟨inner, begins⟩
  rcases readable.exists_mark level some' rest' with ⟨inner', begins'⟩
  rw [begins, begins'] at same
  rcases eq_of_marked plain plain' same with ⟨labels, below⟩
  rw [below, ← begins'] at begins
  exact ⟨labels, List.append_cancel_left begins⟩

/-- A written nonterminal is known by its text. -/
theorem head_eq_of_text {r r' : Rule} (same : r.head.text = r'.head.text) : r.head = r'.head := by
  have phrase := r.head_isTerminal
  have phrase' := r'.head_isTerminal
  cases head : r.head with
  | terminal token => simp [head, Symbol.isTerminal] at phrase
  | nonterminal name =>
      cases head' : r'.head with
      | terminal token => simp [head', Symbol.isTerminal] at phrase'
      | nonterminal name' =>
          rw [head, head', Symbol.text, Symbol.text, List.cons.injEq] at same
          rw [same.2]

/-- A derivation tree is found from what is written for it, if no label has the
mark that ends labels. -/
theorem Readable.determines (readable : layout.Readable mark)
    (plain : ∀ r ∈ g.rules, mark ∉ r.head.text) (plain' : ∀ r ∈ g'.rules, mark ∉ r.head.text)
    {t : Tree} (derived : t.Derivation g tokens) : layout.Determines g' tokens t := by
  -- By induction on the first tree; the second one is taken apart to match.
  induction derived with
  | leaf serial k token found =>
      intro u level rest rest' derived' starts same
      cases derived' with
      | leaf serial' k' token' found' =>
          have position : k = k' := Int.natCast_inj.mp starts
          subst position
          rw [found, Option.some.injEq] at found'
          subst found'
          simp only [write, List.append_assoc, List.cons_append, List.append_cancel_left_eq,
            List.cons.injEq, true_and] at same
          exact ⟨rfl, same⟩
      | node serial' span' r' children' member' labels' tiled' parts' =>
          simp only [write, List.append_assoc, List.append_cancel_left_eq, List.cons_append,
            List.cons.injEq] at same
          exact absurd same.1 (by decide)
  | node serial span r children member labels tiled parts ih =>
      intro u level rest rest' derived' starts same
      cases derived' with
      | leaf serial' k' token' found' =>
          simp only [write, List.append_assoc, List.append_cancel_left_eq, List.cons_append,
            List.cons.injEq] at same
          exact absurd same.1 (by decide)
      | node serial' span' r' children' member' labels' tiled' parts' =>
          have some : children ≠ [] := by
            rintro rfl
            exact r.rhs_ne_nil labels.symm
          have some' : children' ≠ [] := by
            rintro rfl
            exact r'.rhs_ne_nil labels'.symm
          simp only [write, List.append_assoc, List.append_cancel_left_eq, List.cons_append,
            List.cons.injEq, true_and] at same
          rcases readable.label_eq some some' (plain r member) (plain' r' member') same with
            ⟨texts, below⟩
          have starts : span.start = span'.start := starts
          rw [← starts] at tiled'
          rcases readable.shapes_eq ih parts' tiled tiled' below with ⟨shapes, after⟩
          have stops : span.stop = span'.stop := (tiled.of_shapes shapes).stop_unique tiled'
          have spans : span = span' := by
            cases span
            cases span'
            cases starts
            cases stops
            rfl
          refine ⟨?_, List.append_cancel_left after⟩
          rw [shape_node, shape_node, shapes, head_eq_of_text texts, spans]

/-- Derivation trees that are written alike are the same up to their numbering. -/
theorem Readable.shape_eq (readable : layout.Readable mark)
    (plain : ∀ r ∈ g.rules, mark ∉ r.head.text) (plain' : ∀ r ∈ g'.rules, mark ∉ r.head.text)
    {t u : Tree} (derived : t.Derivation g tokens) (derived' : u.Derivation g' tokens)
    (starts : t.span.start = u.span.start) (same : layout.write 0 t = layout.write 0 u) :
    t.shape = u.shape :=
  (readable.determines plain plain' derived u 0 [] [] derived' starts (by rw [same])).1

end Layout
end Tree
end ParseForest
