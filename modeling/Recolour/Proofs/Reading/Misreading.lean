import Recolour.Proofs.Reading.Grammar

/-!
# Misread channels

A token is taken apart into its longest operator, its longest base mark and a body.  `Misspells`
says which misreading a body calls for that spells no channel: the body is empty, it is a hash and
one character that is no letter of a reference, its number is too large, or none of these.  The
reader answers so for every text but those whose body is a hash and one character outside ASCII.
Such a body has the form of a reference, and the reader finds a bad channel in it.
-/

namespace Recolour.Channel

variable {operator : Operator} {base : Nat} {token mark body : List Char}
  {misreading : Misreading}

/-! ### Taking tokens apart -/

/-- The token is the operator, the mark and the body in this order.  It starts with no longer
operator, and behind the operator with no longer mark. -/
structure TakenApart (token : List Char) (operator : Operator) (mark body : List Char) :
    Prop where
  append_eq : operator.symbol.toList ++ (mark ++ body) = token
  mark_mem : mark ∈ baseMarks
  operator_longest : ∀ other : Operator, other.symbol.toList <+: token →
    other.symbol.toList.length ≤ operator.symbol.toList.length
  mark_longest : ∀ other ∈ baseMarks, other <+: mark ++ body → other.length ≤ mark.length

theorem splitOperator_longest {other : Operator} (h : other.symbol.toList <+: token) :
  other.symbol.toList.length ≤ (splitOperator token).1.symbol.toList.length
  := by
  obtain ⟨rest, rfl⟩ := h
  cases other with
  | none => apply Nat.zero_le
  | add => apply Nat.le_refl
  | sub => apply Nat.le_refl
  | lessEq => apply Nat.le_refl
  | greaterEq => apply Nat.le_refl
  -- an equality sign may follow and prolong these two
  | less =>
    cases rest with
    | nil => apply Nat.le_refl
    | cons c rest =>
      by_cases hc : c = '=' <;> simp [Operator.symbol, splitOperator, hc]
  | greater =>
    cases rest with
    | nil => apply Nat.le_refl
    | cons c rest =>
      by_cases hc : c = '=' <;> simp [Operator.symbol, splitOperator, hc]

theorem splitOperator_symbol (operator : Operator) :
  splitOperator operator.symbol.toList = (operator, [])
  := by
  cases operator <;> rfl

theorem splitBase_of_isPrefix {rest other : List Char} (hother : other ∈ baseMarks)
    (hne : other ≠ []) (h : other <+: rest) :
  (splitBase rest).1 = 16
  := by
  obtain ⟨tail, rfl⟩ := h
  simp only [baseMarks, List.mem_cons, List.not_mem_nil, or_false] at hother
  obtain rfl | rfl | rfl := hother
  · exact absurd rfl hne
  · rfl
  · rfl

theorem length_le_of_mem_baseMarks {other : List Char} (hother : other ∈ baseMarks)
    (hmark : mark ∈ baseMarks) (h : mark = [] → other = []) :
  other.length ≤ mark.length
  := by
  have hlength : ∀ mark ∈ baseMarks, ∀ other ∈ baseMarks, (mark = [] → other = []) →
      other.length ≤ mark.length := by decide
  apply hlength mark hmark other hother h

/-- A token is taken apart by splitting it twice. -/
theorem exists_takenApart (token : List Char) :
  ∃ mark, TakenApart token (splitOperator token).1 mark (splitBase (splitOperator token).2).2
    ∧ (splitBase (splitOperator token).2).1 = markedBase mark
  := by
  obtain ⟨mark, hmark, hrest, hbase⟩ := splitBase_append (splitOperator token).2
  refine ⟨mark, ⟨?_, hmark, fun other => splitOperator_longest, ?_⟩, hbase⟩
  · rw [hrest, splitOperator_append]
  · intro other hother hprefix
    apply length_le_of_mem_baseMarks hother hmark
    rintro rfl
    by_contra hne
    rw [hrest] at hprefix
    rw [splitBase_of_isPrefix hother hne hprefix] at hbase
    cases hbase

/-- A token is taken apart in one way. -/
theorem TakenApart.unique {operator' : Operator} {mark' body' : List Char}
    (h : TakenApart token operator mark body) (h' : TakenApart token operator' mark' body') :
  operator = operator' ∧ mark = mark' ∧ body = body'
  := by
  have hprefix : operator.symbol.toList <+: token := ⟨_, h.append_eq⟩
  have hprefix' : operator'.symbol.toList <+: token := ⟨_, h'.append_eq⟩
  obtain ⟨hsymbol, hrest⟩ := List.append_inj (h.append_eq.trans h'.append_eq.symm)
    (Nat.le_antisymm (h'.operator_longest operator hprefix)
      (h.operator_longest operator' hprefix'))
  have hoperator := splitOperator_symbol operator
  rw [hsymbol, splitOperator_symbol] at hoperator
  obtain ⟨hmark, hbody⟩ := List.append_inj hrest
    (Nat.le_antisymm (h'.mark_longest mark h.mark_mem ⟨body, hrest⟩)
      (h.mark_longest mark' h'.mark_mem ⟨body', hrest.symm⟩))
  exact ⟨(Prod.mk.inj hoperator).1.symm, hmark, hbody⟩

theorem TakenApart.split_eq (h : TakenApart token operator mark body) :
  splitOperator token = (operator, mark ++ body)
    ∧ splitBase (mark ++ body) = (markedBase mark, body)
  := by
  obtain ⟨mark', h', hbase⟩ := exists_takenApart token
  obtain ⟨hoperator, rfl, hbody⟩ := h.unique h'
  have hrest := List.append_cancel_left
    ((splitOperator_append token).trans (hoperator ▸ h.append_eq).symm)
  rw [hrest] at hbase hbody
  exact ⟨Prod.ext hoperator.symm hrest, Prod.ext hbase hbody.symm⟩

/-! ### Bodies that spell no channel -/

/-- The body is a hash and one character that is no letter of a reference. -/
def IsUnknownReference (body : List Char) : Prop :=
  ∃ letter, body = ['#', letter] ∧ ∀ reference, (letter, reference) ∉ Reference.letters

/-- The body is digits of the base that denote a number above 255, and maybe a percent sign. -/
def IsTooLarge (base : Nat) (body : List Char) : Prop :=
  ∃ digits percentage, body = digits ++ (if percentage = true then ['%'] else [])
    ∧ digits ≠ [] ∧ (∀ char ∈ digits, Text.isDigitOf base char = true)
    ∧ 255 < Text.numeral base digits

/-- The misreading that the body calls for in the token, behind the operator and a mark of the
base. -/
inductive Misspells (token : List Char) (operator : Operator) (base : Nat) (body : List Char) :
    Misreading → Prop where
  | emptyChannel (h : body = []) :
    Misspells token operator base body (.emptyChannel (String.ofList token))
  | unknownReference (h : IsUnknownReference body) :
    Misspells token operator base body (.unknownReference (String.ofList body))
  | outOfRange (h : IsTooLarge base body) :
    Misspells token operator base body (.outOfRange (String.ofList token))
  | badChannel (hne : body ≠ []) (hreference : ¬IsUnknownReference body)
      (hvalue : ¬IsTooLarge base body) (hspells : ∀ c, ¬Spells operator base body c) :
    Misspells token operator base body (.badChannel (String.ofList token))

/-- A body that spells no channel calls for a misreading. -/
theorem exists_misspells (token : List Char) (hspells : ∀ c, ¬Spells operator base body c) :
  ∃ misreading, Misspells token operator base body misreading
  := by
  by_cases hempty : body = []
  · exact ⟨_, .emptyChannel hempty⟩
  by_cases hreference : IsUnknownReference body
  · exact ⟨_, .unknownReference hreference⟩
  by_cases hvalue : IsTooLarge base body
  · exact ⟨_, .outOfRange hvalue⟩
  exact ⟨_, .badChannel hempty hreference hvalue hspells⟩

/-! ### Numbers -/

/-- A number starts with a digit. -/
theorem IsTooLarge.ne_cons (h : IsTooLarge base body) {first : Char}
    (hfirst : Text.isDigitOf base first = false) (rest : List Char) :
  body ≠ first :: rest
  := by
  obtain ⟨digits, percentage, rfl, hne, hdigits, -⟩ := h
  obtain ⟨digit, digits, rfl⟩ := List.exists_cons_of_ne_nil hne
  rintro ⟨⟩
  simp [hdigits first List.mem_cons_self] at hfirst

theorem IsTooLarge.ne_nil (h : IsTooLarge base body) :
  body ≠ []
  := by
  obtain ⟨digits, percentage, rfl, hne, -⟩ := h
  apply List.append_ne_nil_of_left_ne_nil hne

theorem IsTooLarge.readNumber_eq (h : IsTooLarge base body) :
  readNumber token operator base body = .error (.outOfRange (String.ofList token))
  := by
  obtain ⟨digits, percentage, rfl, hne, hdigits, hvalue⟩ := h
  rw [readNumber_append percentage hne hdigits, if_pos hvalue]

theorem readNumber_eq_badChannel (hok : ∀ c, readNumber token operator base body ≠ .ok c)
    (hvalue : ¬IsTooLarge base body) :
  readNumber token operator base body = .error (.badChannel (String.ofList token))
  := by
  obtain ⟨digits, percentage, rfl, hne, hdigits⟩ | hbad :=
    readNumber_cases token operator base body
  · have hsmall : ¬255 < Text.numeral base digits := by
      intro hlarge
      apply hvalue
      exact ⟨digits, percentage, rfl, hne, hdigits, hlarge⟩
    rw [readNumber_append percentage hne hdigits, if_neg hsmall] at hok
    exact absurd rfl (hok _)
  · apply hbad

/-! ### Misread tokens -/

namespace TakenApart

variable (h : TakenApart token operator mark body)

include h

theorem ofToken_eq_ok_iff {c : Channel} :
  ofToken token = .ok c ↔ Spells operator (markedBase mark) body c
  := by
  rw [Channel.ofToken_eq_ok_iff, h.split_eq.1, h.split_eq.2]

theorem ofToken_of_nil (hbody : body = []) :
  ofToken token = .error (.emptyChannel (String.ofList token))
  := by
  simp only [ofToken, h.split_eq.1, h.split_eq.2]
  rw [if_pos (List.isEmpty_iff.mpr hbody)]

theorem ofToken_of_isUnknownReference {letter : Char} (hbody : body = ['#', letter])
    (hascii : letter.toNat < 128)
    (hletter : ∀ reference, (letter, reference) ∉ Reference.letters) :
  ofToken token = .error (.unknownReference (String.ofList body))
  := by
  have hnone : Reference.ofLetter? letter = none := by
    rw [Option.eq_none_iff_forall_ne_some]
    intro reference hsome
    apply hletter reference (Reference.ofLetter?_eq_some_iff.mp hsome)
  have hreference : referenceLetter? body = some letter :=
    referenceLetter?_eq_some_iff.mpr ⟨hbody, hascii⟩
  have hne : body ≠ [] ∧ body ≠ ['?'] := by
    simp [hbody]
  simp [ofToken, h.split_eq.1, h.split_eq.2, hne, hreference, hnone]

/-- A body that is neither empty nor the wildcard and has no form of a reference is read as a
number. -/
theorem ofToken_eq_readNumber (hne : body ≠ []) (hwildcard : body ≠ ['?'])
    (hreference : referenceLetter? body = none) :
  ofToken token = readNumber token operator (markedBase mark) body
  := by
  simp [ofToken, h.split_eq.1, h.split_eq.2, hne, hwildcard, hreference]

theorem ofToken_of_isTooLarge (hvalue : IsTooLarge (markedBase mark) body) :
  ofToken token = .error (.outOfRange (String.ofList token))
  := by
  have hreference : referenceLetter? body = none := by
    rw [referenceLetter?_eq_none_iff]
    intro letter hbody
    exact absurd hbody (hvalue.ne_cons rfl [letter])
  rw [h.ofToken_eq_readNumber hvalue.ne_nil (hvalue.ne_cons rfl []) hreference,
    hvalue.readNumber_eq]

theorem ofToken_eq_badChannel (hne : body ≠ []) (hreference : referenceLetter? body = none)
    (hvalue : ¬IsTooLarge (markedBase mark) body)
    (hspells : ∀ c, ¬Spells operator (markedBase mark) body c) :
  ofToken token = .error (.badChannel (String.ofList token))
  := by
  have hwildcard : body ≠ ['?'] := by
    rintro rfl
    apply hspells _ Spells.wildcard
  rw [h.ofToken_eq_readNumber hne hwildcard hreference]
  apply readNumber_eq_badChannel _ hvalue
  intro c hc
  apply hspells c ((spells_iff_readNumber hwildcard hreference).mpr hc)

/-- A hash and a character outside ASCII are taken for a bad channel. -/
theorem ofToken_of_not_ascii {letter : Char} (hbody : body = ['#', letter])
    (hascii : 128 ≤ letter.toNat) :
  ofToken token = .error (.badChannel (String.ofList token))
  := by
  apply h.ofToken_eq_badChannel
  · simp [hbody]
  · rw [referenceLetter?_eq_none_iff]
    intro other hother
    rw [hbody] at hother
    cases hother
    apply hascii
  · intro hvalue
    apply hvalue.ne_cons rfl [letter] hbody
  · intro c hc
    rw [hbody, spells_reference_iff] at hc
    obtain ⟨reference, hletter, -⟩ := hc
    exact absurd (Reference.toNat_lt_of_mem_letters hletter) (Nat.not_lt.mpr hascii)

variable (hascii : ∀ letter, body = ['#', letter] → letter.toNat < 128)

include hascii

theorem ofToken_of_misspells
    (hmisspells : Misspells token operator (markedBase mark) body misreading) :
  ofToken token = .error misreading
  := by
  cases hmisspells with
  | emptyChannel hbody => apply h.ofToken_of_nil hbody
  | unknownReference hreference =>
    obtain ⟨letter, hbody, hletter⟩ := hreference
    apply h.ofToken_of_isUnknownReference hbody (hascii letter hbody) hletter
  | outOfRange hvalue => apply h.ofToken_of_isTooLarge hvalue
  | badChannel hne hreference hvalue hspells =>
    apply h.ofToken_eq_badChannel hne _ hvalue hspells
    rw [referenceLetter?_eq_none_iff]
    rintro letter rfl
    apply absurd _ hreference
    use letter, rfl
    intro reference hletter
    apply hspells _ (Spells.reference hletter)

/-- A token is misread as its body calls for, if this is no hash with a character outside
ASCII. -/
theorem ofToken_eq_error_iff :
  ofToken token = .error misreading
    ↔ Misspells token operator (markedBase mark) body misreading
  := by
  constructor
  · intro herror
    -- the body spells no channel, so it calls for some misreading, and this is the answer
    have hspells : ∀ c, ¬Spells operator (markedBase mark) body c := by
      intro c hc
      rw [h.ofToken_eq_ok_iff.mpr hc] at herror
      cases herror
    obtain ⟨other, hother⟩ := exists_misspells token hspells
    rw [h.ofToken_of_misspells hascii hother] at herror
    cases herror
    exact hother
  · apply h.ofToken_of_misspells hascii

end TakenApart

/-- A text is taken apart in one way, without the blanks around it.  It is misread as its body
calls for exactly if this is no hash with a character outside ASCII, and with such a body it is
always a bad channel. -/
theorem parse_misread (text : String) :
  ∃ operator mark body, TakenApart (Text.trim text.toList) operator mark body
    ∧ (∀ operator' mark' body', TakenApart (Text.trim text.toList) operator' mark' body' →
      operator = operator' ∧ mark = mark' ∧ body = body')
    ∧ ((∀ misreading, parse text = .error misreading ↔
        Misspells (Text.trim text.toList) operator (markedBase mark) body misreading)
      ↔ ∀ letter, body = ['#', letter] → letter.toNat < 128)
    ∧ ∀ letter, body = ['#', letter] → 128 ≤ letter.toNat →
      parse text = .error (.badChannel (String.ofList (Text.trim text.toList)))
  := by
  obtain ⟨mark, h, -⟩ := exists_takenApart (Text.trim text.toList)
  refine ⟨_, mark, _, h, fun _ _ _ h' => h.unique h', ⟨?_, ?_⟩, fun letter => ?_⟩
  · intro hmisread letter hbody
    by_contra hascii
    have hreference : IsUnknownReference ['#', letter] := by
      use letter, rfl
      intro reference hletter
      apply hascii (Reference.toNat_lt_of_mem_letters hletter)
    rw [← hbody] at hreference
    have hanswer : ofToken (Text.trim text.toList) = _ :=
      (hmisread _).mpr (.unknownReference hreference)
    rw [h.ofToken_of_not_ascii hbody (Nat.le_of_not_lt hascii)] at hanswer
    cases hanswer
  · intro hascii misreading
    apply h.ofToken_eq_error_iff hascii
  · apply h.ofToken_of_not_ascii

/-- An accented letter behind a hash is an unknown reference, and the text is taken for a bad
channel. -/
theorem parse_accented :
  parse "#é" = .error (.badChannel "#é")
    ∧ TakenApart "#é".toList .none [] "#é".toList
    ∧ Misspells "#é".toList .none (markedBase []) "#é".toList (.unknownReference "#é")
  := by
  refine ⟨rfl, ⟨rfl, by decide, ?_, by decide⟩, .unknownReference ⟨'é', rfl, ?_⟩⟩
  · intro other hother
    cases other <;> simp [Operator.symbol] at hother ⊢
  · intro reference hletter
    exact absurd (Reference.toNat_lt_of_mem_letters hletter) (by decide)

end Recolour.Channel
