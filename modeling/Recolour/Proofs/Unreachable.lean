import Recolour.Proofs.Places
import Recolour.Proofs.Recolouring

/-!
# Unreachable channels

A match rule accepts no pixel exactly if one of its channels accepts no sample, since samples
for the four planes can be chosen one by one.  The check for unreachable channels has a warning
for each channel that accepts no sample, and for no other.
-/

namespace Recolour

namespace Channel

/-- There is no sample that the channel accepts. -/
def AcceptsNone (c : Channel) : Prop :=
  ∀ sample, c.accepts sample = false

instance (c : Channel) : Decidable c.AcceptsNone :=
  decidable_of_iff (∀ i ∈ List.range 256, c.accepts (UInt8.ofNat i) = false) <| by
    constructor
    · intro h sample
      rw [← sample.ofNat_toNat]
      apply h _ (List.mem_range.mpr sample.toNat_lt)
    · intro h i _
      apply h

theorem not_acceptsNone_iff {c : Channel} :
  ¬c.AcceptsNone ↔ ∃ sample, c.accepts sample = true
  := by
  simp [AcceptsNone]

/-- The unreachable channels are those that accept no sample: any other number accepts its own
value or one end of the range. -/
theorem isUnreachable_iff {c : Channel} :
  c.isUnreachable = true ↔ c.AcceptsNone
  := by
  cases c with
  | wildcard => simp [isUnreachable, AcceptsNone, accepts]
  | named reference => simp [isUnreachable, AcceptsNone, accepts]
  | number n =>
    obtain ⟨operator, value, percentage⟩ := n
    have hvalue := value.toNat_lt
    constructor
    · intro h sample
      simp only [isUnreachable, Bool.or_eq_true, Bool.and_eq_true, beq_iff_eq] at h
      obtain ⟨rfl, rfl⟩ | ⟨rfl, rfl⟩ := h
      · simp [accepts, Number.accepts]
      · have hle : sample ≤ 255 := UInt8.le_iff_toNat_le.mpr (Nat.le_of_lt_succ sample.toNat_lt)
        simpa [accepts, Number.accepts] using hle
    · intro h
      have hown := h value
      have hleast := h 0
      have hgreatest := h 255
      cases operator with
      | less =>
        have hzero : value = 0 := by
          simpa [accepts, Number.accepts, UInt8.le_iff_toNat_le, ← UInt8.toNat_inj] using hleast
        simp [isUnreachable, hzero]
      | greater =>
        have hlast : value = 255 := by
          simp [accepts, Number.accepts, UInt8.le_iff_toNat_le] at hgreatest
          apply UInt8.toNat_inj.mp
          apply Nat.le_antisymm (Nat.le_of_lt_succ hvalue) hgreatest
        simp [isUnreachable, hlast]
      | lessEq => simp [accepts, Number.accepts] at hown
      | greaterEq => simp [accepts, Number.accepts] at hown
      | none => simp [accepts, Number.accepts] at hown
      | add => simp [accepts, Number.accepts] at hown
      | sub => simp [accepts, Number.accepts] at hown

end Channel

/-- A rule accepts no pixel exactly if the channel of some plane accepts no sample. -/
theorem Rule.forall_accepts_eq_false_iff {r : Rule} :
  (∀ p, r.accepts p = false) ↔ ∃ plane, (r.get plane).AcceptsNone
  := by
  constructor
  · intro h
    by_contra hnone
    have hsample : ∀ plane, ∃ sample, (r.get plane).accepts sample = true :=
      fun plane => Channel.not_acceptsNone_iff.mp fun hplane => hnone ⟨plane, hplane⟩
    obtain ⟨sample, hsample⟩ := Classical.skolem.mp hsample
    have haccepts : r.accepts (.ofPlanes sample) = true := by
      rw [accepts_iff]
      intro plane
      rw [Pixel.get_ofPlanes]
      apply hsample
    simp [h] at haccepts
  · rintro ⟨plane, hplane⟩ p
    rw [← Bool.not_eq_true, accepts_iff]
    intro h
    have haccepts := h plane
    simp [hplane (p.get plane)] at haccepts

/-- A rule with an unreachable channel accepts no pixel. -/
theorem Rule.accepts_of_isUnreachable {r : Rule} {plane : Plane}
    (h : (r.get plane).isUnreachable = true) (p : Pixel) :
  r.accepts p = false
  := forall_accepts_eq_false_iff.mpr ⟨plane, Channel.isUnreachable_iff.mp h⟩ p

namespace Line

variable {line : Line} {e : Expression}

/-- The warnings about a line of an expression are one for each channel that accepts no sample,
in the order of the planes. -/
theorem unreachableWarnings_eq (he : line.expression? = some e) :
  line.unreachableWarnings
    = (Plane.all.filter fun plane => (e.filter.get plane).AcceptsNone).map fun plane =>
      line.warning "imgmap::unreachable"
        ((e.filter.get plane).text ++ " on channel " ++ plane.letter ++ " never matches") none
  := by
  simp only [unreachableWarnings, he]
  congr 2
  funext plane
  rw [Bool.eq_iff_iff, Channel.isUnreachable_iff, decide_eq_true_iff]

theorem unreachableWarnings_ne_nil_iff (he : line.expression? = some e) :
  line.unreachableWarnings ≠ [] ↔ ∀ p, e.filter.accepts p = false
  := by
  rw [unreachableWarnings_eq he, ne_eq, List.map_eq_nil_iff, List.filter_eq_nil_iff,
    Rule.forall_accepts_eq_false_iff]
  simp [Plane.mem_all]

theorem exists_of_mem_unreachableWarnings {d : Diagnostic}
    (h : d ∈ line.unreachableWarnings) :
  ∃ message help, d = line.warning "imgmap::unreachable" message help
  := by
  simp only [unreachableWarnings] at h
  split at h
  · obtain ⟨plane, -, rfl⟩ := List.mem_map.mp h
    exact ⟨_, _, rfl⟩
  · cases h

theorem place_of_mem_unreachableWarnings {d : Diagnostic} (h : d ∈ line.unreachableWarnings) :
  d.place = line.place
  := by
  obtain ⟨message, help, rfl⟩ := exists_of_mem_unreachableWarnings h
  rfl

end Line

/-- The check for unreachable channels is exact.  What it reports for a line of an expression
stands between what it reports for the lines before and behind.  It is something exactly if the
match rule accepts no pixel, namely one warning for each channel that accepts no sample, in the
order of the planes.  If no other line has the place of this one, then there is nothing else in
the report about the place. -/
theorem Program.check_unreachable_exact {p : Program} {before behind : List Line} {line : Line}
    {e : Expression} (hlines : p.lines = before ++ line :: behind)
    (he : line.expression? = some e) :
  (p.check Line.unreachableWarnings).diagnostics
      = (check ⟨before⟩ Line.unreachableWarnings).diagnostics ++ line.unreachableWarnings
        ++ (check ⟨behind⟩ Line.unreachableWarnings).diagnostics
    ∧ (line.unreachableWarnings ≠ [] ↔ ∀ q, e.filter.accepts q = false)
    ∧ line.unreachableWarnings.length
      = Plane.all.countP (fun plane => (e.filter.get plane).AcceptsNone)
    ∧ line.unreachableWarnings
      = ((Plane.all.filter fun plane => (e.filter.get plane).AcceptsNone).map fun plane =>
        line.warning "imgmap::unreachable"
          ((e.filter.get plane).text ++ " on channel " ++ plane.letter ++ " never matches") none)
    ∧ ((∀ other ∈ before ++ behind, other.place ≠ line.place) →
      (p.check Line.unreachableWarnings).about line.place = line.unreachableWarnings)
  := by
  constructor
  · simp [check, hlines]
  · use Line.unreachableWarnings_ne_nil_iff he
    constructor
    · rw [Line.unreachableWarnings_eq he, List.length_map, List.countP_eq_length_filter]
    · use Line.unreachableWarnings_eq he
      intro hother
      have hat : p.linesAt line.place = [line] := by
        rw [linesAt, hlines, List.filter_append, List.filter_cons_of_pos (by simp)]
        rw [List.filter_eq_nil_iff.mpr, List.filter_eq_nil_iff.mpr]
        · rfl
        · intro other hmem
          simpa using hother other (List.mem_append_right _ hmem)
        · intro other hmem
          simpa using hother other (List.mem_append_left _ hmem)
      rw [about_check fun _ _ => Line.place_of_mem_unreachableWarnings, hat,
        List.flatMap_singleton]

/-- A match rule that no sample passes in red and in alpha, and few pass in green and in blue. -/
theorem Program.check_unreachable_ends :
  ∃ r : Rule, r.text = "<0 >254 <=0 >255" ∧ (∀ q, r.accepts q = false)
    ∧ ((check ⟨[⟨"m", 1, "", .ignored 3⟩, ⟨"m", 2, "", .expression ⟨r, .wildcard⟩⟩]⟩
        Line.unreachableWarnings).about (toLex ("m", 2))).map Diagnostic.message
      = ["<0 on channel R never matches", ">255 on channel A never matches"]
  := by
  let r : Rule := ⟨.number ⟨.less, 0, false⟩, .number ⟨.greater, 254, false⟩,
    .number ⟨.lessEq, 0, false⟩, .number ⟨.greater, 255, false⟩⟩
  let line : Line := ⟨"m", 2, "", .expression ⟨r, .wildcard⟩⟩
  obtain ⟨-, hempty, -, -, habout⟩ := @check_unreachable_exact
    ⟨[⟨"m", 1, "", .ignored 3⟩, line]⟩ [⟨"m", 1, "", .ignored 3⟩] [] line _ rfl rfl
  use r, by decide +kernel, hempty.mp (by decide)
  have hplace : line.place = toLex ("m", 2) := rfl
  rw [← hplace, habout (by decide)]
  decide +kernel

end Recolour
