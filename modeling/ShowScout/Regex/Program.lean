import ShowScout.Regex.Expr

/-!
# Matching programs

An expression as a list of instructions. A machine that runs them keeps one thread per way of
matching; the order of threads is the order of preference. Instructions are laid down from the end
of the expression to its start, so each already knows where it continues.
-/

namespace ShowScout.Regex

inductive Instr where
  | accept
  /-- Consumes one character of the set. -/
  | one (set : CodeSet) (next : Nat)
  | look (condition : Look) (next : Nat)
  /-- Continues at both places and prefers the first. -/
  | fork (first second : Nat)
  /--
  Records the position in a slot: slot `2 * i` is the start of group `i`, the next one its end.
  -/
  | mark (slot : Nat) (next : Nat)
deriving Inhabited

structure Program where
  code : Array Instr
  start : Nat
  slots : Nat

namespace Program

abbrev Builder := StateM (Array Instr)

/-- Lays down an instruction and returns its place. -/
def emit (i : Instr) : Builder Nat :=
  modifyGet fun code => (code.size, code.push i)

/-- Replaces an instruction that was laid down before what it continues at. -/
def patch (place : Nat) (i : Instr) : Builder Unit :=
  modify fun code => code.setIfInBounds place i

/-- A fork between another round and going on. -/
def roundFork (greedy : Bool) (body next : Nat) : Instr :=
  if greedy then .fork body next else .fork next body

/-- Applies a step `n` times, each at the place the one before has returned. -/
def chain (step : Nat → Builder Nat) : (n : Nat) → Nat → Builder Nat
  | 0, next => return next
  | n + 1, next => do chain step n (← step next)

/-- One round and then any number of further ones. -/
def oneOrMore (greedy : Bool) (body : Nat → Builder Nat) (next : Nat) : Builder Nat := do
  let loop ← emit .accept
  let entry ← body loop
  patch loop (roundFork greedy entry next)
  return entry

/--
Lays down an expression that continues at `next` and returns its entry. Any number of rounds of a
body that may consume nothing is at most one loop of at least one round: entering the loop directly
would change which of two empty rounds is preferred.
-/
def lay : Expr → Nat → Builder Nat
  | .empty, next => return next
  | .one s, next => emit (.one s next)
  | .look condition, next => emit (.look condition next)
  | .seq a b, next => do lay a (← lay b next)
  | .alt a b, next => do
    let second ← lay b next
    let first ← lay a next
    emit (.fork first second)
  | .group index body, next => do
    let inner ← lay body (← emit (.mark (2 * index + 1) next))
    emit (.mark (2 * index) inner)
  | .rounds body count greedy, next =>
    match count.most with
    | none =>
      match count.least with
      | 0 => do
        if body.isNullable then
          let entry ← oneOrMore greedy (lay body) next
          emit (roundFork greedy entry next)
        else
          let loop ← emit .accept
          let entry ← lay body loop
          patch loop (roundFork greedy entry next)
          return loop
      | least + 1 => do
        let entry ← oneOrMore greedy (lay body) next
        chain (lay body) least entry
    | some most => do
      let optional (following : Nat) : Builder Nat := do
        emit (roundFork greedy (← lay body following) next)
      chain (lay body) count.least (← chain optional (most - count.least) next)

/-- The program of an expression with the given number of groups. -/
def ofExpr (e : Expr) (groups : Nat) : Program :=
  let (start, code) := (lay e 0).run #[.accept]
  { code, start, slots := 2 * (groups + 1) }

end Program

end ShowScout.Regex
