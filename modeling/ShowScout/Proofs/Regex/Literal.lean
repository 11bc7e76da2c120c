import Mathlib.Algebra.Order.BigOperators.Group.List
import Mathlib.Algebra.Order.Group.Nat
import Mathlib.Algebra.GroupWithZero.Nat
import Mathlib.Data.Option.Basic
import ShowScout.Regex.Footprint
import ShowScout.Regex.Parser

/-!
# Literal texts as patterns

Most characters stand for themselves in a pattern. A text of such characters is read as a sequence
with one part for each, so that its automaton grows with the text.
-/

namespace ShowScout.Regex

variable {c : Char} {s : Cursor}

/-! ## Steps of the reader -/

namespace Reader

@[simp]
theorem run_flags : flags.run s = some (s.flags, s) := rfl

@[simp]
theorem run_setFlags (flags : Flags) : (setFlags flags).run s = some ((), { s with flags }) := rfl

@[simp]
theorem run_peek : peek.run s = some (s.rest.head?, s) := rfl

@[simp]
theorem run_advance : advance.run s = some ((), { s with rest := s.rest.drop 1 }) := rfl

theorem run_current {rest : List Char} (h : s.rest = c :: rest) : current.run s = some (c, s) := by
  simp [current, h]

theorem run_skipBlanks (h : s.flags.verbose = false) : skipBlanks.run s = some ((), s) := by
  simp [skipBlanks, h]

end Reader

/-! ## Literal characters -/

/-- Whether a character stands for itself, outside verbose mode. -/
def isLiteral (c : Char) : Bool :=
  (signRounds c).isNone && !(['(', ')', '|', '[', '\x7b', '\\', '.', '^', '$'].contains c)

/-- What a literal character matches. -/
def literalExpr (flags : Flags) (c : Char) : Expr :=
  .one (foldCase flags (.ofChar c))

def literalItem (flags : Flags) (c : Char) : Item :=
  { piece := { expr := literalExpr flags c } }

theorem run_primitive_of_literal (hc : isLiteral c) {rest : List Char}
    (hrest : s.rest = c :: rest) :
    primitive.run s = some (literalExpr s.flags c, { s with rest }) := by
  simp [isLiteral] at hc
  simp only [primitive, StateT.run_bind, Reader.run_flags, Reader.run_current hrest,
    Option.bind_eq_bind, Option.bind_some]
  -- the other cases are those of signs, which are no literals
  split
  case h_5 => simp [primitiveExpr, literalExpr, hrest, guard]
  all_goals simp at hc

/-- A literal character is read as the next part of the sequence. -/
theorem alternatives_literal (hc : isLiteral c) (hverbose : s.flags.verbose = false)
    {rest : List Char} (hrest : s.rest = c :: rest) (fuel : Nat) (done : List Piece)
    (items : List Item) :
    (alternatives (fuel + 1) done items).run s =
      (alternatives fuel done (literalItem s.flags c :: items)).run { s with rest } := by
  have hprimitive := run_primitive_of_literal hc hrest
  simp only [isLiteral, Bool.and_eq_true, Bool.not_eq_true', Option.isNone_iff_eq_none] at hc
  obtain ⟨hsign, hc⟩ := hc
  simp only [alternatives, StateT.run_bind, Reader.run_skipBlanks hverbose, Reader.run_flags,
    Reader.run_peek, hrest, List.head?_cons, Option.bind_eq_bind, Option.bind_some]
  split
  case h_7 heq =>
    cases heq
    simp [hsign, hprimitive, literalItem]
  all_goals simp_all

/-- What a change of modes is read as. -/
def changeItem : Item :=
  { piece := { expr := .empty }, repeatable := false }

/-- A change of modes is read as a part that consumes nothing. -/
theorem alternatives_change (hverbose : s.flags.verbose = false) {rest : List Char}
    (hrest : s.rest = '(' :: rest) {s' : Cursor} {flags : Flags}
    (hopening : groupOpening.run s = some (.change flags, s')) {fuel : Nat} {done : List Piece}
    {items : List Item} :
    (alternatives (fuel + 1) done items).run s =
      (alternatives fuel done (changeItem :: items)).run { s' with flags } := by
  simp only [alternatives, StateT.run_bind, Reader.run_skipBlanks hverbose, Reader.run_flags,
    Reader.run_peek, hrest, List.head?_cons, Option.bind_eq_bind, Option.bind_some, hopening,
    Reader.run_setFlags, changeItem]

/-- A literal text up to the end of the pattern is read as a sequence of its characters. -/
theorem alternatives_literals {text : List Char} (htext : ∀ c ∈ text, isLiteral c)
    (hverbose : s.flags.verbose = false) (hrest : s.rest = text) (fuel : Nat) (done : List Piece)
    (items : List Item) :
    (alternatives (text.length + (fuel + 1)) done items).run s =
      some (alternativesPiece
          (sequencePiece ((text.map (literalItem s.flags)).reverse ++ items) :: done),
        { s with rest := [] }) := by
  -- the parts read before are generalised, since every character adds one to them
  induction text generalizing s items with
  | nil =>
    simp only [alternatives, StateT.run_bind, Reader.run_skipBlanks hverbose, Reader.run_flags,
      Reader.run_peek, hrest, List.head?_nil, Option.bind_eq_bind, Option.bind_some]
    rcases s with ⟨rest, flags, groups, groupNames⟩
    cases hrest
    simp
  | cons c text ih =>
    have hlength : (c :: text).length + (fuel + 1) = text.length + (fuel + 1) + 1 := by
      simp only [List.length_cons]
      omega
    rw [hlength, alternatives_literal (htext c List.mem_cons_self) hverbose hrest,
      ih (s := { s with rest := text }) (fun c hc => htext c (List.mem_cons_of_mem _ hc)) hverbose
        rfl]
    simp

/-! ## Literal patterns -/

theorem sequencePiece_expr (reversed : List Item) :
    (sequencePiece reversed).expr = .seqs (reversed.reverse.map (·.piece.expr)) := by
  unfold sequencePiece
  split <;> rfl

theorem sequencePiece_depth_le {reversed : List Item}
    (h : ∀ item ∈ reversed, item.piece.depth = 0) : (sequencePiece reversed).depth ≤ 1 := by
  unfold sequencePiece
  split
  · simp
  · simp_all
  · have hdepth : (reversed.map (·.piece.depth)).foldl max 0 = 0 := by
      refine List.foldlRecOn (motive := (· = 0)) _ _ rfl fun depth hdepth next hnext => ?_
      obtain ⟨item, hitem, rfl⟩ := List.mem_map.1 hnext
      simp [hdepth, h item hitem]
    simp [hdepth]

/-- A pattern that is read as one flat sequence. -/
theorem Pattern.parse_of_run {ignoreCase : Bool} {source : List Char} {reversed : List Item}
    (hrun : (alternatives (source.length + 1) [] []).run
        { rest := source, flags := { ignoreCase } } =
      some (alternativesPiece [sequencePiece reversed], s))
    (hrest : s.rest = []) (hflat : ∀ item ∈ reversed, item.piece.depth = 0) :
    Pattern.parse ignoreCase source =
      some { expr := .seqs (reversed.reverse.map (·.piece.expr)), groups := s.groups } := by
  have hdepth : (sequencePiece reversed).depth ≤ depthLimit :=
    Nat.le_trans (sequencePiece_depth_le hflat) (by decide)
  simp [parse, hrun, hrest, alternativesPiece, hdepth, sequencePiece_expr, guard]

/-- A literal pattern is the sequence of its characters. -/
theorem Pattern.parse_literals {text : List Char} (htext : ∀ c ∈ text, isLiteral c)
    (ignoreCase : Bool) :
    Pattern.parse ignoreCase text =
      some { expr := .seqs (text.map (literalExpr { ignoreCase })), groups := 0 } := by
  have hrun := alternatives_literals
    (s := { rest := text, flags := { ignoreCase } }) htext rfl rfl 0 [] []
  have hparse := parse_of_run hrun rfl (by simp +contextual [literalItem])
  simpa [literalItem, Function.comp_def] using hparse

/-- A pattern may give up the letters beyond ASCII before a literal text. -/
theorem Pattern.parse_asciiLiterals {text : List Char} (htext : ∀ c ∈ text, isLiteral c)
    (ignoreCase : Bool) :
    Pattern.parse ignoreCase ("(?-u)".toList ++ text) =
      some
        { expr := .seqs (.empty :: text.map (literalExpr { ignoreCase, unicode := false }))
          groups := 0 } := by
  -- the flags are read letter by letter, whatever stands behind them
  have hopening : groupOpening.run { rest := "(?-u)".toList ++ text, flags := { ignoreCase } } =
      some (.change { ignoreCase, unicode := false }, { rest := text, flags := { ignoreCase } }) :=
    rfl
  -- one round goes to the flags, so four are left over at the end of the text
  have hlength : ("(?-u)".toList ++ text).length = text.length + (4 + 1) := by simp
  have hread := alternatives_literals
    (s := { rest := text, flags := { ignoreCase, unicode := false } }) htext rfl rfl 4 []
    [changeItem]
  have hrun := (alternatives_change rfl rfl hopening).trans hread
  rw [← hlength] at hrun
  have hparse := parse_of_run hrun rfl fun item hitem => by
    simp only [List.mem_append, List.mem_reverse, List.mem_map, List.mem_singleton] at hitem
    obtain ⟨c, -, rfl⟩ | rfl := hitem <;> rfl
  simpa [literalItem, changeItem, Function.comp_def] using hparse

/-! ## Sizes -/

theorem encodedLength_pos (n : Nat) : 0 < encodedLength n := by
  unfold encodedLength
  grind

theorem stateSize_le_classFootprint (forward : Bool) (set : CodeSet) :
    stateSize ≤ classFootprint forward set := by
  unfold classFootprint
  split
  · exact Nat.le_mul_of_pos_right _ (encodedLength_pos _)
  split
  · exact Nat.le_refl _
  split
  · omega
  simp only
  split
  · refine List.foldlRecOn (motive := (stateSize ≤ ·)) _ _ (Nat.le_refl _) ?_
    intro size hsize state _
    omega
  · omega

theorem Expr.footprint_seqs (forward : Bool) {exprs : List Expr} (h : exprs ≠ []) :
    (Expr.seqs exprs).footprint forward = (exprs.map (·.footprint forward)).sum := by
  fun_induction Expr.seqs exprs with
  | case1 => contradiction
  | case2 e => simp
  | case3 e rest hrest ih => simp [Expr.footprint, ih (by simpa using hrest)]

/-- The automaton of a literal text has a state for each character. -/
theorem Expr.le_footprint_literals (forward : Bool) (flags : Flags) (text : List Char) :
    text.length * stateSize ≤ (Expr.seqs (text.map (literalExpr flags))).footprint forward := by
  by_cases hempty : text = []
  · simp [hempty]
  · rw [footprint_seqs forward (by simpa using hempty)]
    have hsize : ∀ size ∈ (text.map (literalExpr flags)).map (·.footprint forward),
        stateSize ≤ size := by
      simp only [List.mem_map, forall_exists_index, and_imp, forall_apply_eq_imp_iff₂]
      exact fun c _ => stateSize_le_classFootprint forward _
    simpa using List.card_nsmul_le_sum _ stateSize hsize

end ShowScout.Regex
