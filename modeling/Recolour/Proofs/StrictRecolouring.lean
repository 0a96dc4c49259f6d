import Recolour.Proofs.Legality
import Recolour.Proofs.Running

/-!
# Recolouring without meaningless channels

Recolouring gives an answer for every channel, also for one that has no meaning on its side
of an expression.  The strict functions here evaluate the same channels in the same order, but
have no answer once they meet such a channel.  A legal expression is recoloured strictly as it
is recoloured otherwise.
-/

namespace Recolour

/-! ### Strict functions -/

/-- The number accepts a sample. There is no answer for arithmetic. -/
def Number.accepts? (n : Number) (sample : UInt8) : Option Bool :=
  if n.operator.isArithmetic then none else some (n.accepts sample)

/-- The channel accepts a sample. There is no answer for a reference. -/
def Channel.accepts? (c : Channel) (sample : UInt8) : Option Bool :=
  match c with
  | .wildcard => some true
  | .named _ => none
  | .number n => n.accepts? sample

/-- Every channel of the rule accepts the sample of its plane. The channels after the first one
that does not are left out. -/
def Rule.accepts? (r : Rule) (p : Pixel) : Option Bool :=
  Plane.all.allM fun plane => (r.get plane).accepts? (p.get plane)

/-- The sample a number produces from a sample. There is no answer for a comparison. -/
def Number.produce? (n : Number) (sample : UInt8) : Option UInt8 :=
  if n.operator.isComparison then none else some (n.produce sample)

/-- The sample a channel produces. -/
def Channel.produce? (c : Channel) (sample : UInt8) (p : Pixel) (metrics : Metrics) :
    Option UInt8 :=
  match c with
  | .wildcard => some sample
  | .named reference => some (reference.value p metrics)
  | .number n => n.produce? sample

/-- The pixel a rule produces. -/
def Rule.produce? (r : Rule) (p : Pixel) (metrics : Metrics) : Option Pixel :=
  return {
    red := ← r.red.produce? p.red p metrics
    green := ← r.green.produce? p.green p metrics
    blue := ← r.blue.produce? p.blue p metrics
    alpha := ← r.alpha.produce? p.alpha p metrics }

/-- The pixel an expression makes of a pixel. -/
def Expression.recolour? (e : Expression) (p : Pixel) : Option Pixel := do
  if ← e.filter.accepts? p then
    e.formula.produce? p (if e.formula.needsMetrics then Metrics.of p else Metrics.zero)
  else return p

/-- The image with a function applied to every pixel, if the function has an answer for each. -/
def Image.map? (f : Pixel → Option Pixel) (image : Image) : Option Image :=
  if ∀ p ∈ image.pixels, (f p).isSome then some (image.map fun p => (f p).getD p) else none

/-- What the expressions of a program make of an image, one after another. -/
def Program.recolour? (p : Program) (image : Image) : Option Image :=
  p.expressions.foldlM (fun sofar e => sofar.map? e.recolour?) image

/-! ### Legal expressions -/

theorem Channel.accepts?_eq_some {c : Channel} (h : c.MayMatch) (sample : UInt8) :
  c.accepts? sample = some (c.accepts sample)
  := by
  obtain _ | _ | ⟨operator, value, percentage⟩ := c
  · rfl
  · cases h
  · obtain ⟨hoperator, -⟩ := h
    have hplain : operator.isArithmetic = false := by
      cases operator <;> simp_all [Operator.isArithmetic]
    simp [accepts?, Number.accepts?, hplain, accepts]

theorem Channel.produce?_eq_some {c : Channel} (h : c.MayProduce) (sample : UInt8) (p : Pixel)
    (metrics : Metrics) :
  c.produce? sample p metrics = some (c.produce sample p metrics)
  := by
  obtain _ | _ | ⟨operator, value, percentage⟩ := c
  · rfl
  · rfl
  · have hplain : operator.isComparison = false := by
      cases operator <;> simp_all [Operator.isComparison, MayProduce]
    simp [produce?, Number.produce?, hplain, produce]

theorem Rule.accepts?_eq_some {r : Rule} (h : ∀ plane, (r.get plane).MayMatch) (p : Pixel) :
  r.accepts? p = some (r.accepts p)
  := by
  have hchannel : ∀ plane, (r.get plane).accepts? (p.get plane)
      = some ((r.get plane).accepts (p.get plane)) := by
    intro plane
    apply Channel.accepts?_eq_some (h plane)
  simp only [accepts?, Plane.all, List.allM, hchannel, accepts]
  simp only [Rule.get, Pixel.get]
  cases r.red.accepts p.red <;> cases r.green.accepts p.green
    <;> cases r.blue.accepts p.blue <;> cases r.alpha.accepts p.alpha <;> rfl

theorem Rule.produce?_eq_some {r : Rule} (h : ∀ plane, (r.get plane).MayProduce) (p : Pixel)
    (metrics : Metrics) :
  r.produce? p metrics = some (r.produce p metrics)
  := by
  have hred : r.red.MayProduce := h .red
  have hgreen : r.green.MayProduce := h .green
  have hblue : r.blue.MayProduce := h .blue
  have halpha : r.alpha.MayProduce := h .alpha
  rw [produce?, Channel.produce?_eq_some hred, Channel.produce?_eq_some hgreen,
    Channel.produce?_eq_some hblue, Channel.produce?_eq_some halpha]
  rfl

/-- A legal expression is recoloured strictly as it is recoloured otherwise. -/
theorem Expression.recolour?_eq_some {e : Expression} (h : e.IsLegal) (p : Pixel) :
  e.recolour? p = some (e.recolour p)
  := by
  rw [recolour?, Rule.accepts?_eq_some h.mayMatch, recolour]
  simp only [Option.bind_eq_bind, Option.bind_some]
  split
  · apply Rule.produce?_eq_some h.mayProduce
  · rfl

/-- A reference on the match side is met, and there is no answer, though recolouring has one. -/
example : Expression.recolour? ⟨⟨.wildcard, .named .red, .literal 9, .wildcard⟩, .wildcard⟩ .black
    = none := rfl

/-! ### Legal programs -/

theorem Image.map?_eq_some {f : Pixel → Option Pixel} {g : Pixel → Pixel}
    (h : ∀ p, f p = some (g p)) (image : Image) :
  image.map? f = some (image.map g)
  := by
  simp [map?, h]

/-- What a legal program makes of an image, it makes of it strictly. -/
theorem Program.recolour?_eq_some {p : Program} (h : p.IsLegal) (image : Image) :
  p.recolour? image = some (image.map (Expression.recolourAll p.expressions))
  := by
  rw [recolour?]
  rw [IsLegal] at h
  generalize p.expressions = steps at h
  induction steps generalizing image with
  | nil =>
    apply congrArg some
    apply (Image.map_id image).symm
  | cons e steps ih =>
    rw [List.forall_mem_cons] at h
    rw [List.foldlM_cons, Image.map?_eq_some (Expression.recolour?_eq_some h.1)]
    apply (ih (image.map e.recolour) h.2).trans
    rw [Image.map_map]
    rfl

end Recolour
