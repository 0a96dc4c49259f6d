import Recolour.Proofs.Reading.Line

/-!
# The two forms of a rule

A rule is four channels, or one packed literal.  A packed literal is read as its pairs of digits
would be, each with a base mark of its own.  `ofBytes` cuts the pairs out of a literal by their
places among its bytes, and has no answer where a cut is out of bounds or inside a character; it
always has one, whatever characters stand in a field of the size of a packed literal.
-/

namespace Recolour

/-! ### Cutting a text at bytes -/

namespace Utf8

/-- A text cut in two after `count` bytes. There is no answer when the text is shorter, or when
the cut falls inside a character. -/
def splitAt? : Nat → List Char → Option (List Char × List Char)
  | 0, cs => some ([], cs)
  | _ + 1, [] => none
  | count + 1, c :: cs =>
    if c.utf8Size ≤ count + 1 then
      (splitAt? (count + 1 - c.utf8Size) cs).map fun parts => (c :: parts.1, parts.2)
    else none

/-- The part of a text between two of its bytes. -/
def slice? (start stop : Nat) (cs : List Char) : Option (List Char) :=
  if start ≤ stop then
    (splitAt? start cs).bind fun parts => (splitAt? (stop - start) parts.2).map (·.1)
  else none

theorem splitAt?_eq_some_iff {count : Nat} {cs front rest : List Char} :
  splitAt? count cs = some (front, rest) ↔ front ++ rest = cs ∧ size front = count
  := by
  fun_induction splitAt? count cs generalizing front with
  | case1 cs =>
    simp only [Option.some.injEq, Prod.mk.injEq]
    constructor
    · rintro ⟨rfl, rfl⟩
      exact ⟨rfl, rfl⟩
    · rintro ⟨happend, hsize⟩
      cases front with
      | nil => exact ⟨rfl, happend.symm⟩
      | cons c front =>
        rw [size_cons] at hsize
        have := c.utf8Size_pos
        omega
  | case2 count =>
    simp only [reduceCtorEq, List.append_eq_nil_iff, false_iff]
    rintro ⟨⟨rfl, -⟩, hsize⟩
    cases hsize
  | case3 count c cs hfits ih =>
    simp only [Option.map_eq_some_iff, Prod.exists, Prod.mk.injEq]
    constructor
    · rintro ⟨front, rest, hsplit, rfl, rfl⟩
      obtain ⟨rfl, hsize⟩ := ih.mp hsplit
      rw [size_cons, hsize]
      exact ⟨rfl, by omega⟩
    · rintro ⟨happend, hsize⟩
      cases front with
      | nil => cases hsize
      | cons d front =>
        obtain ⟨rfl, rfl⟩ := List.cons.inj happend
        rw [size_cons] at hsize
        exact ⟨front, rest, ih.mpr ⟨rfl, by omega⟩, rfl, rfl⟩
  | case4 count c cs hlong =>
    simp only [reduceCtorEq, false_iff]
    rintro ⟨happend, hsize⟩
    cases front with
    | nil => cases hsize
    | cons d front =>
      obtain ⟨rfl, rfl⟩ := List.cons.inj happend
      rw [size_cons] at hsize
      omega

theorem size_eq_length {cs : List Char} (h : ∀ c ∈ cs, c.utf8Size = 1) :
  size cs = cs.length
  := by
  induction cs with
  | nil => rfl
  | cons c cs ih =>
    rw [List.forall_mem_cons] at h
    rw [size_cons, ih h.2, h.1, List.length_cons, Nat.add_comm]

/-- In a text of characters of one byte each, the bytes are the characters. -/
theorem splitAt?_of_forall {count : Nat} {cs : List Char} (h : ∀ c ∈ cs, c.utf8Size = 1)
    (hcount : count ≤ cs.length) :
  splitAt? count cs = some (cs.take count, cs.drop count)
  := by
  rw [splitAt?_eq_some_iff, size_eq_length fun c hc => h c (List.mem_of_mem_take hc)]
  exact ⟨List.take_append_drop count cs, List.length_take_of_le hcount⟩

theorem slice?_of_forall {start stop : Nat} {cs : List Char} (h : ∀ c ∈ cs, c.utf8Size = 1)
    (hstart : start ≤ stop) (hstop : stop ≤ cs.length) :
  slice? start stop cs = some ((cs.drop start).take (stop - start))
  := by
  have hrest : ∀ c ∈ cs.drop start, c.utf8Size = 1 := fun c hc => h c (List.mem_of_mem_drop hc)
  rw [slice?, if_pos hstart, splitAt?_of_forall h (Nat.le_trans hstart hstop), Option.bind_some,
    splitAt?_of_forall hrest (by rw [List.length_drop]; omega), Option.map_some]

end Utf8

namespace Rule

/-! ### Packed literals -/

/-- The token is a packed literal with the given digits. -/
structure IsPacked (token digits : List Char) : Prop where
  token_eq : ∃ mark ∈ ['x', 'X'], token = '0' :: mark :: digits
  length_eq : digits.length = 8
  isDigit : ∀ c ∈ digits, Text.isDigitOf 16 c = true

/-- The tokens of the pairs of some digits, each with a base mark of its own. -/
def pairTokens : List Char → List (List Char)
  | high :: low :: digits => ['0', 'x', high, low] :: pairTokens digits
  | _ => []

/-- The pairs of some digits, with a space between them. -/
def spaced (digits : List Char) : String :=
  String.ofList ([' '].intercalate (pairTokens digits))

/-- A packed literal is four pairs of digits after a base mark, read pair by pair. -/
theorem IsPacked.exists_pairs {token digits : List Char} (h : IsPacked token digits) :
  ∃ r₁ r₂ g₁ g₂ b₁ b₂ a₁ a₂, digits = [r₁, r₂, g₁, g₂, b₁, b₂, a₁, a₂]
    ∧ Channel.splitBase token = (16, digits)
    ∧ ofPacked? token = some ⟨packedChannel r₁ r₂, packedChannel g₁ g₂, packedChannel b₁ b₂,
      packedChannel a₁ a₂⟩
  := by
  obtain ⟨⟨mark, hmark, rfl⟩, hlength, hdigits⟩ := h
  match digits, hlength with
  | [r₁, r₂, g₁, g₂, b₁, b₂, a₁, a₂], _ =>
    have hall := List.all_eq_true.mpr hdigits
    have hcondition : (mark == 'x' || mark == 'X') = true := by
      simpa using hmark
    use r₁, r₂, g₁, g₂, b₁, b₂, a₁, a₂, rfl
    constructor
    · simp only [List.mem_cons, List.not_mem_nil, or_false] at hmark
      obtain rfl | rfl := hmark <;> rfl
    · rw [ofPacked?, hcondition, hall]
      rfl

theorem numeral_pair_le (high low : Char) :
  Text.numeral 16 [high, low] ≤ 255
  := by
  have hhigh := Text.getD_digit?_lt (by decide : 0 < 16) high
  have hlow := Text.getD_digit?_lt (by decide : 0 < 16) low
  simp only [Text.numeral, List.foldl_cons, List.foldl_nil]
  omega

theorem isSeparator_of_isDigitOf {base : Nat} {c : Char} (h : Text.isDigitOf base c = true) :
  isSeparator c = false
  := by
  have hrange := Text.toNat_of_isDigitOf h
  have hcomma : c ≠ ',' := by
    rintro rfl
    simp at hrange
  have hblank : Text.isBlank c = false := by
    simp [Text.isBlank]
    omega
  simp [isSeparator, hcomma, hblank]

theorem not_isSeparator_of_mem_pairToken {high low : Char}
    (hhigh : Text.isDigitOf 16 high = true) (hlow : Text.isDigitOf 16 low = true) :
  ∀ c ∈ ['0', 'x', high, low], isSeparator c = false
  := by
  simp only [List.forall_mem_cons]
  exact ⟨rfl, rfl, isSeparator_of_isDigitOf hhigh, isSeparator_of_isDigitOf hlow, by simp⟩

/-- A pair of digits with a base mark is a plain number. -/
theorem ofChars_pairToken {high low : Char} (hhigh : Text.isDigitOf 16 high = true)
    (hlow : Text.isDigitOf 16 low = true) :
  Channel.ofChars ['0', 'x', high, low] = .ok (packedChannel high low)
  := by
  have hblank : ∀ c ∈ ['0', 'x', high, low], Text.isBlank c = false := by
    intro c hc
    have hseparator := not_isSeparator_of_mem_pairToken hhigh hlow c hc
    simp only [isSeparator, Bool.or_eq_false_iff] at hseparator
    apply hseparator.2
  rw [Channel.ofChars_eq_ok_iff, Text.trim_eq_self hblank]
  use .none, ['0', 'x'], [high, low]
  constructor
  · rfl
  · decide
  · have hdigits : ∀ c ∈ [high, low], Text.isDigitOf 16 c = true := by
      simp [hhigh, hlow]
    apply Channel.Spells.number false (List.cons_ne_nil high [low]) hdigits
    apply numeral_pair_le

theorem fields_spaced {digits : List Char} (h : ∀ c ∈ digits, Text.isDigitOf 16 c = true) :
  Text.fields isSeparator (spaced digits).toList = pairTokens digits
  := by
  rw [spaced, String.toList_ofList, Text.fields_intercalate rfl]
  fun_induction pairTokens digits with
  | case1 high low digits ih =>
    simp only [List.forall_mem_cons] at h
    obtain ⟨hhigh, hlow, hdigits⟩ := h
    rw [List.flatMap_cons, ih hdigits, Text.fields_eq_singleton (List.cons_ne_nil _ _)
      (not_isSeparator_of_mem_pairToken hhigh hlow)]
    rfl
  | case2 => rfl

/-- The pairs of a packed literal spell the channels of its rule. -/
theorem IsPacked.exists_rule {token digits : List Char} (h : IsPacked token digits) :
  ∃ r, ofPacked? token = some r ∧ (pairTokens digits).map Channel.ofChars = r.channels.map .ok
  := by
  have hdigits := h.isDigit
  obtain ⟨r₁, r₂, g₁, g₂, b₁, b₂, a₁, a₂, rfl, -, hpacked⟩ := h.exists_pairs
  simp only [List.forall_mem_cons] at hdigits
  obtain ⟨hr₁, hr₂, hg₁, hg₂, hb₁, hb₂, ha₁, ha₂, -⟩ := hdigits
  refine ⟨_, hpacked, ?_⟩
  simp only [pairTokens, List.map_cons, List.map_nil, ofChars_pairToken hr₁ hr₂,
    ofChars_pairToken hg₁ hg₂, ofChars_pairToken hb₁ hb₂, ofChars_pairToken ha₁ ha₂, channels]

theorem exists_isPacked {token : List Char} {r : Rule} (h : ofPacked? token = some r) :
  ∃ digits, IsPacked token digits
  := by
  fun_cases ofPacked? token with
  | case1 mark r₁ r₂ g₁ g₂ b₁ b₂ a₁ a₂ hdigits =>
    rw [Bool.and_eq_true] at hdigits
    use [r₁, r₂, g₁, g₂, b₁, b₂, a₁, a₂]
    constructor
    · use mark, by simpa using hdigits.1
    · rfl
    · apply List.all_eq_true.mp hdigits.2
  | case2 _ _ _ _ _ _ _ _ _ hdigits =>
    rw [ofPacked?, if_neg hdigits] at h
    cases h
  | case3 packed hshape =>
    rw [ofPacked?] at h
    · cases h
    · apply hshape

/-! ### Packed literals by bytes -/

/-- The plain number spelled by the pair of digits at the bytes from `2 * i` on. -/
def slicedChannel (packed digits : List Char) (i : Nat) : ExceptT Misreading Option Channel := do
  let pair ← Utf8.slice? (2 * i) (2 * i + 2) digits
  if pair ≠ [] ∧ pair.all (Text.isDigitOf 16) ∧ Text.numeral 16 pair ≤ 255 then
    return .literal (UInt8.ofNat (Text.numeral 16 pair))
  else throw (.badRule (String.ofList packed))

/-- The rule a packed literal spells, its pairs of digits cut out by their bytes. -/
def ofSlices (packed : List Char) : ExceptT Misreading Option Rule := do
  let (base, digits) := Channel.splitBase packed
  if base = 16 ∧ digits.all (Text.isDigitOf 16) then
    return ⟨← slicedChannel packed digits 0, ← slicedChannel packed digits 1,
      ← slicedChannel packed digits 2, ← slicedChannel packed digits 3⟩
  else throw (.badRule (String.ofList packed))

/-- The rule a text spells, with a packed literal cut at its bytes. -/
def ofBytes (text : List Char) : ExceptT Misreading Option Rule :=
  match Text.fields isSeparator text with
  | [packed] =>
    if Utf8.size packed = packedSize then ofSlices packed
    else throw (.badRule (String.ofList (Text.trim text)))
  | _ => .mk (some (ofChars text))

theorem slicedChannel_eq {high low : Char} {back : List Char} (packed front : List Char) (i : Nat)
    (hdigits : ∀ c ∈ front ++ high :: low :: back, Text.isDigitOf 16 c = true)
    (hfront : front.length = 2 * i) :
  slicedChannel packed (front ++ high :: low :: back) i = pure (packedChannel high low)
  := by
  have hsize : ∀ c ∈ front ++ high :: low :: back, c.utf8Size = 1 :=
    fun c hc => Text.utf8Size_of_isDigitOf (hdigits c hc)
  have hslice : Utf8.slice? (2 * i) (2 * i + 2) (front ++ high :: low :: back)
      = some [high, low] := by
    rw [Utf8.slice?_of_forall hsize (by omega) (by simp; omega), ← hfront, List.drop_left,
      Nat.add_sub_cancel_left]
    rfl
  have hpair : [high, low].all (Text.isDigitOf 16) = true := by
    simp [hdigits high (by simp), hdigits low (by simp)]
  have hcondition : [high, low] ≠ [] ∧ [high, low].all (Text.isDigitOf 16) = true
      ∧ Text.numeral 16 [high, low] ≤ 255 :=
    ⟨List.cons_ne_nil high [low], hpair, numeral_pair_le high low⟩
  rw [slicedChannel, hslice]
  change (if _ then _ else _ : ExceptT Misreading Option Channel) = _
  rw [if_pos hcondition]
  rfl

/-- The digits of a packed literal are cut between two of them. -/
theorem IsPacked.ofSlices_eq {token digits : List Char} {r : Rule} (h : IsPacked token digits)
    (hr : ofPacked? token = some r) :
  ofSlices token = pure r
  := by
  have hdigits := h.isDigit
  obtain ⟨r₁, r₂, g₁, g₂, b₁, b₂, a₁, a₂, rfl, hsplit, hpacked⟩ := h.exists_pairs
  rw [hpacked] at hr
  obtain rfl := Option.some.inj hr
  have hred := slicedChannel_eq token [] 0 hdigits rfl
  have hgreen := slicedChannel_eq token [r₁, r₂] 1 hdigits rfl
  have hblue := slicedChannel_eq token [r₁, r₂, g₁, g₂] 2 hdigits rfl
  have halpha := slicedChannel_eq token [r₁, r₂, g₁, g₂, b₁, b₂] 3 hdigits rfl
  simp only [List.nil_append, List.cons_append] at hred hgreen hblue halpha
  simp only [ofSlices, hsplit, List.all_eq_true.mpr hdigits, and_self, if_true, hred, hgreen,
    hblue, halpha, pure_bind]

theorem isPacked_of_splitBase {token : List Char} (hsize : Utf8.size token = packedSize)
    (hbase : (Channel.splitBase token).1 = 16)
    (hdigits : ∀ c ∈ (Channel.splitBase token).2, Text.isDigitOf 16 c = true) :
  IsPacked token (Channel.splitBase token).2
  := by
  have hlength : Utf8.size (Channel.splitBase token).2 = (Channel.splitBase token).2.length :=
    Utf8.size_eq_length fun c hc => Text.utf8Size_of_isDigitOf (hdigits c hc)
  have hx : 'x'.utf8Size = 1 := rfl
  have hX : 'X'.utf8Size = 1 := rfl
  have hzero : '0'.utf8Size = 1 := rfl
  fun_cases Channel.splitBase token with
  | case1 digits =>
    constructor
    · exact ⟨'x', by decide, rfl⟩
    · simp [Utf8.size_cons, packedSize, Channel.splitBase, hzero, hx] at hsize hlength ⊢
      omega
    · apply hdigits
  | case2 digits =>
    constructor
    · exact ⟨'X', by decide, rfl⟩
    · simp [Utf8.size_cons, packedSize, Channel.splitBase, hzero, hX] at hsize hlength ⊢
      omega
    · apply hdigits
  | case3 rest hx hX =>
    rw [Channel.splitBase] at hbase
    · cases hbase
    · apply hx
    · apply hX

theorem ofSlices_of_forall_not {token : List Char} (hsize : Utf8.size token = packedSize)
    (h : ∀ digits, ¬IsPacked token digits) :
  ofSlices token = throw (.badRule (String.ofList token))
  := by
  simp only [ofSlices]
  apply if_neg
  rintro ⟨hbase, hdigits⟩
  apply h _ (isPacked_of_splitBase hsize hbase (List.all_eq_true.mp hdigits))

/-- Cutting a packed literal at its bytes never fails, and reads the same rule. -/
theorem ofBytes_eq (text : List Char) :
  ofBytes text = .mk (some (ofChars text))
  := by
  rw [ofBytes]
  split
  · rename_i packed hfields
    rw [ofChars, hfields]
    simp only
    by_cases hsize : Utf8.size packed = packedSize
    · rw [if_pos hsize, if_pos hsize]
      by_cases hpacked : ∃ digits, IsPacked packed digits
      · obtain ⟨digits, hpacked⟩ := hpacked
        obtain ⟨r, hr, -⟩ := hpacked.exists_rule
        rw [hr, hpacked.ofSlices_eq hr]
        rfl
      · rw [not_exists] at hpacked
        have hnone : ofPacked? packed = none := by
          rw [Option.eq_none_iff_forall_ne_some]
          intro r hr
          obtain ⟨digits, hdigits⟩ := exists_isPacked hr
          apply hpacked digits hdigits
        rw [hnone, ofSlices_of_forall_not hsize hpacked]
        rfl
    · rw [if_neg hsize, if_neg hsize]
      rfl
  · rfl

/-! ### The two forms -/

variable {text : String} {packed digits : List Char}

/-- The pairs of a packed literal are read as the rule of the literal. -/
theorem IsPacked.exists_parse_spaced (h : IsPacked packed digits) :
  ∃ r, ofPacked? packed = some r ∧ parse (spaced digits) = .ok r
  := by
  obtain ⟨r, hr, hmap⟩ := h.exists_rule
  refine ⟨r, hr, ?_⟩
  rw [parse, ofChars_eq_ok_iff, fields_spaced h.isDigit]
  apply Or.inl hmap

theorem ofPacked?_eq_some_iff {r : Rule} :
  ofPacked? packed = some r ↔ ∃ digits, IsPacked packed digits ∧ parse (spaced digits) = .ok r
  := by
  constructor
  · intro h
    obtain ⟨digits, hdigits⟩ := exists_isPacked h
    obtain ⟨s, hs, hspaced⟩ := hdigits.exists_parse_spaced
    obtain rfl := Option.some.inj (h.symm.trans hs)
    exact ⟨digits, hdigits, hspaced⟩
  · rintro ⟨digits, hdigits, h⟩
    obtain ⟨s, hs, hspaced⟩ := hdigits.exists_parse_spaced
    obtain rfl := Except.ok.inj (h.symm.trans hspaced)
    apply hs

theorem parse_eq_ok_iff_channels_or_packed {r : Rule} :
  parse text = .ok r
    ↔ (Text.fields isSeparator text.toList).map Channel.ofChars = r.channels.map .ok
      ∨ ∃ packed digits, Text.fields isSeparator text.toList = [packed]
        ∧ IsPacked packed digits ∧ parse (spaced digits) = .ok r
  := by
  rw [parse, ofChars_eq_ok_iff, SpelledBy]
  simp only [ofPacked?_eq_some_iff, exists_and_left]

theorem exists_parse_of_isPacked (hfields : Text.fields isSeparator text.toList = [packed])
    (h : IsPacked packed digits) :
  ∃ r, parse text = .ok r ∧ parse (spaced digits) = .ok r
  := by
  obtain ⟨r, -, hspaced⟩ := h.exists_parse_spaced
  refine ⟨r, ?_, hspaced⟩
  rw [parse_eq_ok_iff_channels_or_packed]
  exact .inr ⟨packed, digits, hfields, h, hspaced⟩

/-- A text is read as a rule exactly when its fields are four channels, or one packed literal,
which is read as the pairs of its digits would be.  All other texts are misread, and cutting a
literal at its bytes never fails. -/
theorem parse_two_forms (text : String) :
  (∀ r, parse text = .ok r
      ↔ (Text.fields isSeparator text.toList).map Channel.ofChars = r.channels.map .ok
        ∨ ∃ packed digits, Text.fields isSeparator text.toList = [packed]
          ∧ IsPacked packed digits ∧ parse (spaced digits) = .ok r)
    ∧ (∀ packed digits, Text.fields isSeparator text.toList = [packed] → IsPacked packed digits
      → parse text = parse (spaced digits) ∧ ∃ r, parse text = .ok r)
    ∧ ((∀ r, parse text ≠ .ok r) → ∃ misreading, parse text = .error misreading
      ∧ misreading.error = .parse misreading.message misreading.help)
    ∧ (ofBytes text.toList).run = some (parse text)
  := by
  refine ⟨fun r => parse_eq_ok_iff_channels_or_packed, ?_, ?_, ?_⟩
  · intro packed digits hfields h
    obtain ⟨r, hr, hspaced⟩ := exists_parse_of_isPacked hfields h
    exact ⟨hr.trans hspaced.symm, r, hr⟩
  · intro h
    cases hparse : parse text with
    | error misreading => exact ⟨misreading, rfl, rfl⟩
    | ok r => exact absurd hparse (h r)
  · rw [ofBytes_eq]
    rfl

/-- A single field of ten bytes, one of its characters longer than a byte, is cut nowhere. -/
example : (ofBytes "0x00é0000".toList).run = some (.error (.badRule "0x00é0000")) := by
  decide

end Rule

end Recolour
