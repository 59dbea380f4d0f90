import Mathlib.Data.List.Basic
import Mathlib.Data.List.TakeDrop
import TimePanel.Proofs.Number.Literal
import TimePanel.Proofs.Text.Scan
import TimePanel.Proofs.TimeRange.Bounds
import TimePanel.Proofs.TimeRange.LocalTime

/-! Points in time that are written relative to now: which texts they are, and what they resolve
to. -/

namespace TimePanel

open Text

theorem Span.ofLetter?_eq_some_iff {c : Char} {span : Span} :
    Span.ofLetter? c = some span ↔ c = span.letter := by
  constructor
  · intro h
    simpa [eq_comm] using List.find?_some h
  · rintro rfl
    cases span <;> rfl

theorem SnapUnit.ofLetter?_eq_some_iff {c : Char} {unit : SnapUnit} :
    SnapUnit.ofLetter? c = some unit ↔ c = unit.letter := by
  constructor
  · intro h
    simpa [eq_comm] using List.find?_some h
  · rintro rfl
    cases unit <;> rfl

namespace TimeExpression

-- Whether a text is a number in decimal digits of any script.
def IsAmount (amount : List Char) : Prop := amount ≠ [] ∧ ∀ c ∈ amount, isDecimal c = true

def signChar (later : Bool) : Char := if later then '+' else '-'

-- The slash and the letter of a unit to round down to, if there is one.
def snapChars (snap : Option SnapUnit) : List Char := snap.elim [] fun unit => ['/', unit.letter]

-- The texts of the four forms.
def shiftChars (later : Bool) (amount : List Char) (span : Span) (snap : Option SnapUnit) :
    List Char :=
  "now".toList ++ signChar later :: (amount ++ span.letter :: snapChars snap)

def startChars (unit : SnapUnit) : List Char := "now/".toList ++ [unit.letter]

def bareChars (amount : List Char) (span : Span) : List Char := amount ++ [span.letter]

variable {text rest amount : List Char} {expression : TimeExpression}

theorem isDecimal_letter (span : Span) : isDecimal span.letter = false := by
  cases span <;> rfl

theorem amount?_eq_some_iff {span : Span} : amount? text = some (amount, span, rest) ↔
    IsAmount amount ∧ text = amount ++ span.letter :: rest := by
  rw [amount?, List.span_eq_takeWhile_dropWhile]
  constructor
  · intro h
    have hsplit : text.takeWhile isDecimal ++ text.dropWhile isDecimal = text :=
      List.takeWhile_append_dropWhile
    have hdigits := List.all_eq_true.mp (List.all_takeWhile (p := isDecimal) (l := text))
    split at h
    · cases h
    · next digits c after hnone heq =>
      obtain ⟨found, hfound, hparts⟩ := Option.map_eq_some_iff.mp h
      cases hparts
      obtain ⟨htake, hdrop⟩ := Prod.mk.inj heq
      obtain rfl := Span.ofLetter?_eq_some_iff.mp hfound
      rw [htake] at hsplit hdigits
      rw [hdrop] at hsplit
      exact ⟨⟨by simpa using hnone, hdigits⟩, hsplit.symm⟩
    · cases h
  · rintro ⟨⟨hsome, hdigits⟩, rfl⟩
    have hstop : (span.letter :: rest).takeWhile isDecimal = [] ∧
        (span.letter :: rest).dropWhile isDecimal = span.letter :: rest := by
      simp [isDecimal_letter]
    rw [List.takeWhile_append_of_pos hdigits, List.dropWhile_append_of_pos hdigits, hstop.1,
      hstop.2, List.append_nil]
    obtain ⟨c, digits, rfl⟩ := List.exists_cons_of_ne_nil hsome
    simp [Span.ofLetter?_eq_some_iff]

theorem snap?_eq_some_iff {snap : Option SnapUnit} :
    snap? text = some snap ↔ text = snapChars snap := by
  constructor
  · intro h
    unfold snap? at h
    split at h
    · cases h
      rfl
    · obtain ⟨unit, hunit, rfl⟩ := Option.map_eq_some_iff.mp h
      rw [SnapUnit.ofLetter?_eq_some_iff.mp hunit]
      rfl
    · cases h
  · rintro rfl
    cases snap with
    | none => rfl
    | some unit => cases unit <;> rfl

-- What each pattern accepts, and how it is read.
theorem shifted?_eq_some_iff : shifted? text = some expression ↔
    ∃ later amount span snap, IsAmount amount ∧ text = shiftChars later amount span snap ∧
      expression = .shifted later amount span snap := by
  constructor
  · intro h
    obtain ⟨after, hafter, h⟩ := Option.bind_eq_some_iff.mp h
    have hsign : ∃ later, after = signChar later :: after.tail ∧
        ((amount? after.tail).bind fun found => (snap? found.2.2).bind fun snap =>
          some (.shifted later found.1 found.2.1 snap)) = some expression := by
      dsimp only at h
      split at h
      · next hhead => exact ⟨true, List.eq_cons_of_mem_head? hhead, h⟩
      · next hhead => exact ⟨false, List.eq_cons_of_mem_head? hhead, h⟩
      · cases h
    obtain ⟨later, hcons, h⟩ := hsign
    obtain ⟨⟨amount, span, rest⟩, hamount, h⟩ := Option.bind_eq_some_iff.mp h
    obtain ⟨snap, hsnap, h⟩ := Option.bind_eq_some_iff.mp h
    obtain ⟨hdigits, htail⟩ := amount?_eq_some_iff.mp hamount
    refine ⟨later, amount, span, snap, hdigits, ?_, (Option.some.inj h).symm⟩
    rw [shiftChars, ← snap?_eq_some_iff.mp hsnap, ← htail, ← hcons]
    exact after?_eq_some_iff.mp hafter
  · rintro ⟨later, amount, span, snap, hdigits, rfl, rfl⟩
    have hamount : amount? (amount ++ span.letter :: snapChars snap) =
        some (amount, span, snapChars snap) := amount?_eq_some_iff.mpr ⟨hdigits, rfl⟩
    have hsnap : snap? (snapChars snap) = some snap := snap?_eq_some_iff.mpr rfl
    rw [shifted?, shiftChars, after?_append]
    cases later <;> simp [signChar, hamount, hsnap]

theorem snapped?_eq_some_iff : snapped? text = some expression ↔
    ∃ unit, text = startChars unit ∧ expression = .snapped unit := by
  constructor
  · intro h
    simp only [snapped?, Option.bind_eq_bind, Option.bind_eq_some_iff] at h
    obtain ⟨after, hafter, h⟩ := h
    split at h
    · obtain ⟨unit, hunit, h⟩ := Option.bind_eq_some_iff.mp h
      rw [SnapUnit.ofLetter?_eq_some_iff.mp hunit] at hafter
      exact ⟨unit, after?_eq_some_iff.mp hafter, (Option.some.inj h).symm⟩
    · cases h
  · rintro ⟨unit, rfl, rfl⟩
    cases unit <;> rfl

theorem ago?_eq_some_iff : ago? text = some expression ↔
    ∃ amount span, IsAmount amount ∧ text = bareChars amount span ∧
      expression = .ago amount span := by
  constructor
  · intro h
    simp only [ago?, Option.bind_eq_bind, Option.bind_eq_some_iff] at h
    obtain ⟨⟨amount, span, rest⟩, hamount, h⟩ := h
    obtain ⟨hdigits, htext⟩ := amount?_eq_some_iff.mp hamount
    split at h
    · next heq =>
      cases heq
      exact ⟨_, _, hdigits, htext, (Option.some.inj h).symm⟩
    · cases h
  · rintro ⟨amount, span, hdigits, rfl, rfl⟩
    have hamount : amount? (amount ++ [span.letter]) = some (amount, span, []) :=
      amount?_eq_some_iff.mpr ⟨hdigits, rfl⟩
    simp [ago?, bareChars, hamount]

theorem epoch?_eq_some_iff : epoch? text = some expression ↔
    (∀ c ∈ text, isDecimal c = true) ∧ 10 ≤ text.length ∧ text.length ≤ 19 ∧
      expression = .epoch text := by
  rw [epoch?]
  split
  · next h =>
    rw [List.all_eq_true] at h
    rw [Option.some.injEq, eq_comm]
    exact ⟨fun hread => ⟨h.1, h.2.1, h.2.2, hread⟩, fun hall => hall.2.2.2⟩
  · next h =>
    rw [List.all_eq_true] at h
    simp only [reduceCtorEq, false_iff]
    exact fun hall => h ⟨hall.1, hall.2.1, hall.2.2.1⟩

abbrev Pattern := List Char → Option TimeExpression

-- The patterns in the order in which they are tried.
def patterns : List Pattern := [shifted?, snapped?, ago?, epoch?]

-- Whether a pattern accepts a text, which may end with a line break.
def Accepts (pattern : Pattern) (text : List Char) : Prop :=
  ∃ line, (pattern line).isSome = true ∧ (text = line ∨ text = line ++ ['\n'])

-- What tells the four forms apart: the word `now` and the character after it, and a letter among
-- digits. None of them goes over the end of a line.
theorem marks_of_shifted? (h : shifted? text = some expression) :
    'n' ∈ text ∧ text[3]? ≠ some '/' ∧ '\n' ∉ text := by
  obtain ⟨later, amount, span, snap, ⟨-, hdigits⟩, rfl, -⟩ := shifted?_eq_some_iff.mp h
  have hamount : '\n' ∉ amount := fun hmem => absurd (hdigits _ hmem) (by decide)
  have hspan : '\n' ≠ span.letter := by cases span <;> decide
  have hsnap : '\n' ∉ snapChars snap := by
    cases snap with
    | none => simp [snapChars]
    | some unit => cases unit <;> decide
  cases later <;> simp [shiftChars, signChar, hamount, hspan, hsnap]

theorem marks_of_snapped? (h : snapped? text = some expression) :
    'n' ∈ text ∧ text[3]? = some '/' ∧ '\n' ∉ text := by
  obtain ⟨unit, rfl, -⟩ := snapped?_eq_some_iff.mp h
  cases unit <;> decide

theorem marks_of_ago? (h : ago? text = some expression) :
    'n' ∉ text ∧ (∃ c ∈ text, isDecimal c = false) ∧ '\n' ∉ text := by
  obtain ⟨amount, span, ⟨-, hdigits⟩, rfl, -⟩ := ago?_eq_some_iff.mp h
  have hletter : 'n' ≠ span.letter ∧ '\n' ≠ span.letter := by cases span <;> decide
  have hword : 'n' ∉ amount := fun hmem => absurd (hdigits _ hmem) (by decide)
  have hbreak : '\n' ∉ amount := fun hmem => absurd (hdigits _ hmem) (by decide)
  refine ⟨by simp [bareChars, hword, hletter], ⟨span.letter, ?_, isDecimal_letter span⟩,
    by simp [bareChars, hbreak, hletter]⟩
  simp [bareChars]

theorem marks_of_epoch? (h : epoch? text = some expression) :
    'n' ∉ text ∧ (∀ c ∈ text, isDecimal c = true) ∧ '\n' ∉ text := by
  have hdigits := (epoch?_eq_some_iff.mp h).1
  exact ⟨fun hmem => absurd (hdigits _ hmem) (by decide), hdigits,
    fun hmem => absurd (hdigits _ hmem) (by decide)⟩

theorem patterns_pairwise : patterns.Pairwise fun pattern other =>
    ∀ text, (pattern text).isSome = true → (other text).isSome = true → False := by
  simp only [patterns, List.pairwise_cons, List.mem_cons, List.not_mem_nil, or_false,
    forall_eq_or_imp, forall_eq, IsEmpty.forall_iff, implies_true, List.Pairwise.nil, and_true,
    Option.isSome_iff_exists, forall_exists_index]
  refine ⟨⟨?_, ?_, ?_⟩, ⟨?_, ?_⟩, ?_⟩
  · intro text e h other hother
    exact (marks_of_shifted? h).2.1 (marks_of_snapped? hother).2.1
  · intro text e h other hother
    exact (marks_of_ago? hother).1 (marks_of_shifted? h).1
  · intro text e h other hother
    exact (marks_of_epoch? hother).1 (marks_of_shifted? h).1
  · intro text e h other hother
    exact (marks_of_ago? hother).1 (marks_of_snapped? h).1
  · intro text e h other hother
    exact (marks_of_epoch? hother).1 (marks_of_snapped? h).1
  · intro text e h other hother
    obtain ⟨c, hc, hletter⟩ := (marks_of_ago? h).2.1
    have hdigit := (marks_of_epoch? hother).2.1 c hc
    rw [hletter] at hdigit
    cases hdigit

theorem lineBreak_not_mem {pattern : Pattern} (hpattern : pattern ∈ patterns)
    (h : (pattern text).isSome = true) : '\n' ∉ text := by
  obtain ⟨e, he⟩ := Option.isSome_iff_exists.mp h
  simp only [patterns, List.mem_cons, List.not_mem_nil, or_false] at hpattern
  rcases hpattern with rfl | rfl | rfl | rfl
  · exact (marks_of_shifted? he).2.2
  · exact (marks_of_snapped? he).2.2
  · exact (marks_of_ago? he).2.2
  · exact (marks_of_epoch? he).2.2

-- No text is accepted by two patterns, whether or not it ends with a line break.
theorem accepts_pairwise : patterns.Pairwise fun pattern other =>
    ∀ text, ¬ (Accepts pattern text ∧ Accepts other text) := by
  refine patterns_pairwise.imp_of_mem fun {pattern other} hpattern hother hdisjoint text => ?_
  rintro ⟨⟨line, hline, htext⟩, ⟨line', hline', htext'⟩⟩
  have hfree := lineBreak_not_mem hpattern hline
  have hfree' := lineBreak_not_mem hother hline'
  have hsame : line = line' := by
    rcases htext with rfl | rfl
    · rcases htext' with rfl | rfl
      · rfl
      · simp at hfree
    · rcases htext' with rfl | htext'
      · simp at hfree'
      · exact List.append_cancel_right htext'
  exact hdisjoint line hline (hsame ▸ hline')

theorem ofText_eq (hword : text ≠ "now".toList) :
    ofText text = ((patterns.findSome? fun pattern => pattern text).getD (.written text)) := by
  rw [ofText, if_neg hword, patterns]
  cases hshifted : shifted? text <;> cases hsnapped : snapped? text <;> cases hago : ago? text <;>
    cases hepoch : epoch? text <;> simp [hshifted, hsnapped, hago, hepoch]

theorem findSome?_of_mem {tried : List Pattern} {pattern : Pattern}
    (hdisjoint : tried.Pairwise fun earlier later =>
      ∀ text, (earlier text).isSome = true → (later text).isSome = true → False)
    (hpattern : pattern ∈ tried) (h : pattern text = some expression) :
    (tried.findSome? fun pattern => pattern text) = some expression := by
  induction tried with
  | nil => exact absurd hpattern List.not_mem_nil
  | cons earlier tried ih =>
      obtain ⟨hearlier, hrest⟩ := List.pairwise_cons.mp hdisjoint
      rcases List.mem_cons.mp hpattern with rfl | hpattern
      · simp [h]
      · have hnone : earlier text = none := by
          rw [← Option.not_isSome_iff_eq_none]
          exact fun haccepts => hearlier pattern hpattern text haccepts (by rw [h]; rfl)
        rw [List.findSome?_cons, hnone, ih hrest hpattern]

-- So the order in which the patterns are tried does not matter.
theorem ofText_of_mem {pattern : Pattern} (hpattern : pattern ∈ patterns)
    (h : pattern text = some expression) : ofText text = expression := by
  have hword : text ≠ "now".toList := by
    rintro rfl
    have hnone : ∀ pattern ∈ patterns, pattern "now".toList = none := by decide
    rw [hnone pattern hpattern] at h
    cases h
  rw [ofText_eq hword, findSome?_of_mem patterns_pairwise hpattern h, Option.getD_some]

end TimeExpression

-- Whether resolving a value leads to the moment that was worked out for it: to that moment if it
-- can be shown in every zone, and to none exactly if it cannot, or could not be worked out.
structure Cell.ResolvesTo (cell : Cell) (dates : DateReader) (now : Instant) (zone : Zone)
    (outcome : Except Fault Instant) : Prop where
  found : ∀ instant, outcome = .ok instant → instant.isRepresentable = true →
    cell.boundInstant dates now zone = .ok (some instant)
  missing : cell.boundInstant dates now zone = .ok none ↔
    Fault.Fails outcome ∨ ∃ instant, outcome = .ok instant ∧ instant.isRepresentable = false

theorem Cell.resolvesTo_of_instant? {cell : Cell} {dates : DateReader} {now : Instant} {zone : Zone}
    {outcome : Except Fault Instant} (h : cell.instant? dates now zone = outcome.map some)
    (hvalue : Fault.OnlyOfValue outcome) : cell.ResolvesTo dates now zone outcome := by
  cases outcome with
  | error fault =>
      have hnone : cell.boundInstant dates now zone = .ok none := by
        simp only [boundInstant, h, Except.map, hvalue fault rfl, if_true]
      exact ⟨nofun, iff_of_true hnone (.inl (Fault.fails_error fault))⟩
  | ok instant =>
      have hbound : cell.boundInstant dates now zone =
          .ok (if instant.isRepresentable then some instant else none) := by
        simp only [boundInstant, h, Except.map]
      refine ⟨?_, ?_⟩
      · rintro _ ⟨⟩ hshown
        rw [hbound, if_pos hshown]
      · rw [hbound]
        cases hshown : instant.isRepresentable <;> simp [Fault.not_fails_ok, hshown]

namespace TimeExpression

-- A text between blanks.
def paddedCell (before text after : List Char) : Cell :=
  .text (String.ofList (before ++ text ++ after))

variable {dates : DateReader} {now : Instant} {zone : Zone} {before text after : List Char}
  {expression : TimeExpression}

theorem forall_not_isBlank (h : text.all (!isBlank ·) = true) : ∀ c ∈ text, isBlank c = false := by
  simpa using h

section

variable (hbefore : ∀ c ∈ before, isBlank c = true) (hafter : ∀ c ∈ after, isBlank c = true)
include hbefore hafter

theorem instant?_paddedCell {pattern : Pattern}
    (hpattern : pattern ∈ patterns) (h : pattern text = some expression)
    (htext : ∀ c ∈ text, isBlank c = false) :
    (paddedCell before text after).instant? dates now zone =
      expression.evaluate dates now zone := by
  have hstrip : strip (String.ofList (before ++ text ++ after)).toList = text := by
    rw [String.toList_ofList, strip_padded hbefore htext hafter]
  have hsome : text.isEmpty = false := by
    cases text with
    | nil =>
        have hnone : ∀ pattern ∈ patterns, pattern [] = none := by decide
        rw [hnone pattern hpattern] at h
        cases h
    | cons c rest => rfl
  simp only [paddedCell, Cell.instant?, hstrip, hsome, Bool.false_eq_true, if_false,
    ofText_of_mem hpattern h]

theorem resolvesTo_start (unit : SnapUnit) :
    (paddedCell before (startChars unit) after).ResolvesTo dates now zone
      (now.snapTo (String.singleton unit.letter) zone) := by
  have hread : snapped? (startChars unit) = some (.snapped unit) :=
    snapped?_eq_some_iff.mpr ⟨unit, rfl, rfl⟩
  have hclear : ∀ c ∈ startChars unit, isBlank c = false := by
    cases unit <;> exact forall_not_isBlank (by decide)
  rw [Instant.snapTo_letter]
  exact Cell.resolvesTo_of_instant?
    (instant?_paddedCell hbefore hafter (by simp [patterns]) hread hclear)
    (now.onlyOfValue_snap zone unit)

end

end TimeExpression

-- The moment that lies an amount of spans later or earlier.
def Instant.moved (now : Instant) (later : Bool) (amount : List Char) (span : Span) : Instant :=
  let nanos : Int := Nat.ofDigitChars 10 amount 0 * span.nanos
  now.shift (if later then nanos else -nanos)

namespace TimeExpression

variable {dates : DateReader} {now : Instant} {zone : Zone} {amount before after : List Char}

theorem isBlank_letter (span : Span) : isBlank span.letter = false := by
  cases span <;> decide

section

variable (hsome : amount ≠ []) (hdigits : ∀ c ∈ amount, c.isDigit = true)
  (hlength : amount.length ≤ 4300)
include hsome hdigits

theorem isAmount_of_isDigit : IsAmount amount :=
  ⟨hsome, fun c hc => isDecimal_of_isDigit (hdigits c hc)⟩

include hlength

theorem amountOf_of_isDigit : amountOf amount = .ok (Nat.ofDigitChars 10 amount 0 : Int) := by
  rw [amountOf, Literal.integer?_of_isDigit hdigits hsome hlength]
  rfl

theorem evaluate_shifted (later : Bool) (span : Span) (snap : Option SnapUnit) :
    (TimeExpression.shifted later amount span snap).evaluate dates now zone =
      (snap.elim (.ok (now.moved later amount span)) fun unit =>
        (now.moved later amount span).snap unit zone).map some := by
  simp only [evaluate, amountOf_of_isDigit hsome hdigits hlength]
  cases snap with
  | none => rfl
  | some unit => rfl

theorem evaluate_ago (span : Span) : (TimeExpression.ago amount span).evaluate dates now zone =
    .ok (some (now.moved false amount span)) := by
  simp only [evaluate, amountOf_of_isDigit hsome hdigits hlength, bind, Except.bind,
    Int.neg_mul, Instant.moved, Bool.false_eq_true, if_false]
  rfl

variable (hbefore : ∀ c ∈ before, isBlank c = true) (hafter : ∀ c ∈ after, isBlank c = true)
include hbefore hafter

theorem instant?_shift (later : Bool) (span : Span) (snap : Option SnapUnit) :
    (paddedCell before (shiftChars later amount span snap) after).instant? dates now zone =
      (snap.elim (.ok (now.moved later amount span)) fun unit =>
        (now.moved later amount span).snap unit zone).map some := by
  have hread : shifted? (shiftChars later amount span snap) =
      some (.shifted later amount span snap) :=
    shifted?_eq_some_iff.mpr
      ⟨later, amount, span, snap, isAmount_of_isDigit hsome hdigits, rfl, rfl⟩
  have hclear : ∀ c ∈ shiftChars later amount span snap, isBlank c = false := by
    have hsign : isBlank (signChar later) = false := by cases later <;> decide
    have hsnap : ∀ c ∈ snapChars snap, isBlank c = false := by
      cases snap with
      | none => exact nofun
      | some unit => cases unit <;> exact forall_not_isBlank (by decide)
    have hword : ∀ c ∈ "now".toList, isBlank c = false := forall_not_isBlank (by decide)
    simp only [shiftChars, List.forall_mem_append, List.forall_mem_cons]
    exact ⟨hword, hsign, fun c hc => isBlank_of_isDigit (hdigits c hc), isBlank_letter span, hsnap⟩
  rw [instant?_paddedCell hbefore hafter (by simp [patterns]) hread hclear,
    evaluate_shifted hsome hdigits hlength]

theorem instant?_bare (span : Span) :
    (paddedCell before (bareChars amount span) after).instant? dates now zone =
      .ok (some (now.moved false amount span)) := by
  have hread : ago? (bareChars amount span) = some (.ago amount span) :=
    ago?_eq_some_iff.mpr ⟨amount, span, isAmount_of_isDigit hsome hdigits, rfl, rfl⟩
  have hclear : ∀ c ∈ bareChars amount span, isBlank c = false := by
    simp only [bareChars, List.forall_mem_append, List.forall_mem_singleton]
    exact ⟨fun c hc => isBlank_of_isDigit (hdigits c hc), isBlank_letter span⟩
  rw [instant?_paddedCell hbefore hafter (by simp [patterns]) hread hclear,
    evaluate_ago hsome hdigits hlength]

-- A text that is written relative to now, with an amount in the digits 0 to 9, means the moment
-- that lies so many spans later or earlier, and after a slash the start of the unit in which that
-- moment lies; without the word `now` the spans are counted back. It resolves to none only if this
-- moment cannot be shown in every zone, or if the start of its unit cannot be computed. There is
-- only one way to read a text, because no two patterns accept the same one.
theorem resolvesTo_of_relative (dates : DateReader) (now : Instant) (zone : Zone) :
    (∀ later span, (paddedCell before (shiftChars later amount span none) after).ResolvesTo
      dates now zone (.ok (now.moved later amount span))) ∧
    (∀ later span (unit : SnapUnit),
      (paddedCell before (shiftChars later amount span (some unit)) after).ResolvesTo dates now zone
        ((now.moved later amount span).snapTo (String.singleton unit.letter) zone)) ∧
    (∀ unit : SnapUnit, (paddedCell before (startChars unit) after).ResolvesTo dates now zone
      (now.snapTo (String.singleton unit.letter) zone)) ∧
    (∀ span, (paddedCell before (bareChars amount span) after).boundInstant dates now zone =
      (paddedCell before (shiftChars false amount span none) after).boundInstant dates now zone) ∧
    patterns.Pairwise fun pattern other =>
      ∀ text, ¬ (Accepts pattern text ∧ Accepts other text) := by
  refine ⟨?_, ?_, resolvesTo_start hbefore hafter, ?_, accepts_pairwise⟩
  · intro later span
    exact Cell.resolvesTo_of_instant?
      (instant?_shift hsome hdigits hlength hbefore hafter later span none) (Fault.onlyOfValue_ok _)
  · intro later span unit
    rw [Instant.snapTo_letter]
    exact Cell.resolvesTo_of_instant?
      (instant?_shift hsome hdigits hlength hbefore hafter later span (some unit))
      (Instant.onlyOfValue_snap _ zone unit)
  · intro span
    rw [Cell.boundInstant, Cell.boundInstant,
      instant?_bare hsome hdigits hlength hbefore hafter,
      instant?_shift hsome hdigits hlength hbefore hafter]
    rfl

end

-- Thirty-six hours before a quarter to twelve on 13 March it was still 11 March in New York. The
-- years of the other text lead to a time before the calendar.
theorem resolvesTo_of_relative_newYork : ∃ zone, Zone.named? "America/New_York" = some zone ∧
    (Cell.text "\t now-36h/d\n").boundInstant (.on ⟨2024, 3, 13⟩) ⟨1710344730000000000⟩ zone =
      .ok (some ⟨1710129600000000000⟩) ∧
    (Cell.text " 0002025y").boundInstant (.on ⟨2024, 3, 13⟩) ⟨1710344730000000000⟩ zone =
      .ok none := by
  obtain ⟨zone, hzone, htest⟩ : ∃ zone, Zone.named? "America/New_York" = some zone ∧
      ((Instant.mk 1710344730000000000).moved false "36".toList .hour).snapTo "d" zone =
        .ok ⟨1710129600000000000⟩ := ⟨_, rfl, by decide +kernel⟩
  have htab : ∀ c ∈ ['\t', ' '], isBlank c = true := List.all_eq_true.mp (by decide)
  have hbreak : ∀ c ∈ ['\n'], isBlank c = true := List.all_eq_true.mp (by decide)
  have hspace : ∀ c ∈ [' '], isBlank c = true := List.all_eq_true.mp (by decide)
  have hnone : ∀ c ∈ ([] : List Char), isBlank c = true := nofun
  have hhours : ∀ c ∈ "36".toList, c.isDigit = true := List.all_eq_true.mp (by decide)
  have hyears : ∀ c ∈ "0002025".toList, c.isDigit = true := List.all_eq_true.mp (by decide)
  obtain ⟨-, hsnapped, -, -, -⟩ := resolvesTo_of_relative (by decide) hhours (by decide) htab hbreak
    (.on ⟨2024, 3, 13⟩) ⟨1710344730000000000⟩ zone
  obtain ⟨hshifted, -, -, hbare, -⟩ := resolvesTo_of_relative (by decide) hyears (by decide) hspace
    hnone (.on ⟨2024, 3, 13⟩) ⟨1710344730000000000⟩ zone
  refine ⟨zone, hzone, ?_, ?_⟩
  · exact (hsnapped false .hour .day).found _ htest (by decide)
  · exact (hbare .year).trans ((hshifted false .year).missing.mpr (.inr ⟨_, rfl, by decide⟩))

end TimeExpression

end TimePanel
