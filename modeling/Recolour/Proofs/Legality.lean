import Recolour.Program

/-!
# Legality channel by channel

A rule is legal on its side of an expression exactly when each of its channels is.  A channel
may match when it is a wildcard, or a number that is no percentage and is plain or compared.
A channel may produce unless it is a compared number.
-/

namespace Recolour

/-- The channel has a meaning in a match rule. -/
def Channel.MayMatch : Channel → Prop
  | .wildcard => True
  | .named _ => False
  | .number n =>
    n.operator ∈ [Operator.none, .less, .lessEq, .greater, .greaterEq] ∧ n.percentage = false

/-- The channel has a meaning in a produce rule. -/
def Channel.MayProduce : Channel → Prop
  | .wildcard | .named _ => True
  | .number n => n.operator ∈ [Operator.none, .add, .sub]

/-- Every channel of the expression has a meaning on its side. -/
structure Expression.IsLegal (e : Expression) : Prop where
  mayMatch : ∀ plane, (e.filter.get plane).MayMatch
  mayProduce : ∀ plane, (e.formula.get plane).MayProduce

/-- Every expression of the program is legal. -/
def Program.IsLegal (p : Program) : Prop :=
  ∀ e ∈ p.expressions, e.IsLegal

theorem Channel.matchFault?_eq_none_iff (c : Channel) (plane : Plane) :
  c.matchFault? plane = none ↔ c.MayMatch
  := by
  obtain _ | _ | ⟨operator, value, percentage⟩ := c
  · simp [matchFault?, MayMatch]
  · simp [matchFault?, MayMatch]
  · cases operator <;> cases percentage <;> simp [matchFault?, MayMatch, Operator.isArithmetic]

theorem Channel.produceFault?_eq_none_iff (c : Channel) (plane : Plane) :
  c.produceFault? plane = none ↔ c.MayProduce
  := by
  obtain _ | _ | ⟨operator, value, percentage⟩ := c
  · simp [produceFault?, MayProduce]
  · simp [produceFault?, MayProduce]
  · cases operator <;> simp [produceFault?, MayProduce, Operator.isComparison]

theorem Plane.mem_all (plane : Plane) :
  plane ∈ Plane.all
  := by
  cases plane <;> decide

theorem Rule.isMatchLegal_iff (r : Rule) :
  r.IsMatchLegal ↔ ∀ plane, (r.get plane).MayMatch
  := by
  rw [IsMatchLegal, matchFault?, List.findSome?_eq_none_iff]
  constructor
  · intro h plane
    apply (Channel.matchFault?_eq_none_iff _ plane).mp (h plane plane.mem_all)
  · intro h plane _
    apply (Channel.matchFault?_eq_none_iff _ plane).mpr (h plane)

theorem Rule.isProduceLegal_iff (r : Rule) :
  r.IsProduceLegal ↔ ∀ plane, (r.get plane).MayProduce
  := by
  rw [IsProduceLegal, produceFault?, List.findSome?_eq_none_iff]
  constructor
  · intro h plane
    apply (Channel.produceFault?_eq_none_iff _ plane).mp (h plane plane.mem_all)
  · intro h plane _
    apply (Channel.produceFault?_eq_none_iff _ plane).mpr (h plane)

theorem Expression.isLegal_iff (e : Expression) :
  e.IsLegal ↔ e.filter.IsMatchLegal ∧ e.formula.IsProduceLegal
  := by
  rw [Rule.isMatchLegal_iff, Rule.isProduceLegal_iff]
  constructor
  · rintro ⟨hmatch, hproduce⟩
    exact ⟨hmatch, hproduce⟩
  · rintro ⟨hmatch, hproduce⟩
    exact ⟨hmatch, hproduce⟩

instance (e : Expression) : Decidable e.IsLegal :=
  decidable_of_iff' _ e.isLegal_iff

theorem Rule.checkMatch_eq_ok_iff {r checked : Rule} :
  r.checkMatch = .ok checked ↔ checked = r ∧ ∀ plane, (r.get plane).MayMatch
  := by
  rw [← isMatchLegal_iff, IsMatchLegal, checkMatch]
  cases h : r.matchFault? with
  | none => simp [eq_comm]
  | some fault => simp

theorem Rule.checkProduce_eq_ok_iff {r checked : Rule} :
  r.checkProduce = .ok checked ↔ checked = r ∧ ∀ plane, (r.get plane).MayProduce
  := by
  rw [← isProduceLegal_iff, IsProduceLegal, checkProduce]
  cases h : r.produceFault? with
  | none => simp [eq_comm]
  | some fault => simp

theorem Rule.checkMatch_eq_error_iff {r : Rule} {i : Illegality} :
  r.checkMatch = .error i ↔ r.matchFault? = some i
  := by
  rw [checkMatch]
  cases r.matchFault? <;> simp

theorem Rule.checkProduce_eq_error_iff {r : Rule} {i : Illegality} :
  r.checkProduce = .error i ↔ r.produceFault? = some i
  := by
  rw [checkProduce]
  cases r.produceFault? <;> simp

end Recolour
