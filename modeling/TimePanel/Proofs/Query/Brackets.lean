import Mathlib.Data.List.Infix
import TimePanel.Proofs.Query.Misuse

/-! Brackets in a query whose filters are repaired. A call ends at the first closing bracket, so the
brackets stay balanced exactly if no argument opens one of its own. -/

namespace TimePanel

namespace Text

variable {recognise : Recogniser}

-- Every bracket that is closed was opened before, and in the end all are closed.
structure IsBalanced (text : List Char) : Prop where
  opened : ∀ start, start <+: text → start.count ')' ≤ start.count '('
  closed : text.count '(' = text.count ')'

instance (text : List Char) : Decidable (IsBalanced text) :=
  decidable_of_iff ((∀ start ∈ text.inits, start.count ')' ≤ start.count '(') ∧
      text.count '(' = text.count ')')
    ⟨fun ⟨hopened, hclosed⟩ => ⟨fun start hstart => hopened start ((List.mem_inits _ _).mpr hstart),
      hclosed⟩,
    fun h => ⟨fun start hstart => h.opened start ((List.mem_inits _ _).mp hstart), h.closed⟩⟩

-- How many brackets a text opens more than it closes.
def depth (text : List Char) : Int := text.count '(' - text.count ')'

theorem isAdditive_depth : IsAdditive depth := by
  intro a b
  simp only [depth, List.count_append]
  omega

-- Whether no bracket is closed too early in a text that begins at some depth.
def StaysOpen : Int → List Char → Prop
  | height, [] => 0 ≤ height
  | height, c :: rest => 0 ≤ height ∧ StaysOpen (height + depth [c]) rest

theorem StaysOpen.nonneg {height : Int} {text : List Char} (h : StaysOpen height text) :
    0 ≤ height := by
  cases text with
  | nil => exact h
  | cons c rest => exact h.1

theorem staysOpen_append {height : Int} {a b : List Char} :
    StaysOpen height (a ++ b) ↔ StaysOpen height a ∧ StaysOpen (height + depth a) b := by
  induction a generalizing height with
  | nil =>
      have hnil : depth [] = 0 := rfl
      rw [List.nil_append, hnil, Int.add_zero]
      exact ⟨fun h => ⟨h.nonneg, h⟩, And.right⟩
  | cons c a ih =>
      rw [List.cons_append, StaysOpen, StaysOpen, ih, isAdditive_depth.cons c a, ← Int.add_assoc,
        and_assoc]

theorem staysOpen_iff {height : Int} {text : List Char} :
    StaysOpen height text ↔ ∀ start, start <+: text → 0 ≤ height + depth start := by
  constructor
  · rintro h start ⟨rest, rfl⟩
    exact (staysOpen_append.mp h).2.nonneg
  · intro h
    induction text generalizing height with
    | nil => simpa [StaysOpen, depth] using h [] List.nil_prefix
    | cons c rest ih =>
        refine ⟨by simpa [depth] using h [] List.nil_prefix, ih fun start hstart => ?_⟩
        have hmore := h (c :: start) (List.cons_prefix_cons.mpr ⟨rfl, hstart⟩)
        rwa [isAdditive_depth.cons, ← Int.add_assoc] at hmore

theorem isBalanced_iff {text : List Char} :
    IsBalanced text ↔ StaysOpen 0 text ∧ depth text = 0 := by
  rw [staysOpen_iff]
  constructor
  · rintro ⟨hopened, hclosed⟩
    refine ⟨fun start hstart => ?_, ?_⟩
    · have := hopened start hstart
      simp only [depth]
      omega
    · simp only [depth]
      omega
  · rintro ⟨hopened, hclosed⟩
    refine ⟨fun start hstart => ?_, ?_⟩
    · have := hopened start hstart
      simp only [depth] at this
      omega
    · simp only [depth] at hclosed
      omega

def HasNoBrackets (text : List Char) : Prop := '(' ∉ text ∧ ')' ∉ text

theorem HasNoBrackets.depth_eq {text : List Char} (h : HasNoBrackets text) : depth text = 0 := by
  rw [depth, List.count_eq_zero_of_not_mem h.1, List.count_eq_zero_of_not_mem h.2]
  rfl

theorem HasNoBrackets.staysOpen_iff {text : List Char} (h : HasNoBrackets text) {height : Int}
    {rest : List Char} : StaysOpen height (text ++ rest) ↔ StaysOpen height rest := by
  induction text generalizing height with
  | nil => exact Iff.rfl
  | cons c text ih =>
      obtain ⟨hopen, hclose⟩ := h
      rw [List.mem_cons, not_or] at hopen hclose
      have hc : depth [c] = 0 :=
        HasNoBrackets.depth_eq ⟨by simpa using hopen.1, by simpa using hclose.1⟩
      rw [List.cons_append, StaysOpen, hc, Int.add_zero, ih ⟨hopen.2, hclose.2⟩]
      exact ⟨And.right, fun h => ⟨h.nonneg, h⟩⟩

-- Replacements without brackets change nothing about the brackets.
theorem isBalanced_replaceAll_iff
    (h : Turns recognise fun taken value => HasNoBrackets taken ∧ HasNoBrackets value)
    {text : List Char} : IsBalanced (replaceAll recognise text) ↔ IsBalanced text := by
  have hsame : ∀ before text, depth (replaceFrom recognise before 0 text) = depth text ∧
      ∀ height, StaysOpen height (replaceFrom recognise before 0 text) ↔ StaysOpen height text := by
    refine scan_induction h ?_ ?_ ?_
    · intro before
      exact ⟨rfl, fun _ => Iff.rfl⟩
    · intro before c rest hnone ⟨hdepth, hstays⟩
      rw [replaceFrom_keep hnone, isAdditive_depth.cons, isAdditive_depth.cons c rest, hdepth]
      exact ⟨rfl, fun height => and_congr_right fun _ => hstays _⟩
    · intro before taken rest value hne ⟨htaken, hvalue⟩ hhit ⟨hdepth, hstays⟩
      rw [replaceFrom_hit hne hhit, isAdditive_depth, isAdditive_depth, hdepth, htaken.depth_eq,
        hvalue.depth_eq]
      exact ⟨rfl, fun height => by rw [hvalue.staysOpen_iff, htaken.staysOpen_iff, hstays]⟩
  rw [isBalanced_iff, isBalanced_iff, replaceAll, (hsame none text).1, (hsame none text).2]

end Text

open Text

namespace Misuse

theorem hasNoBrackets_filterToken : HasNoBrackets filterToken := by
  constructor <;> decide

theorem hasNoBrackets_of_isBlank {gap : List Char} (h : ∀ c ∈ gap, isBlank c = true) :
    HasNoBrackets gap :=
  ⟨fun hmem => absurd (h _ hmem) (by decide), fun hmem => absurd (h _ hmem) (by decide)⟩

theorem turns_quotes_brackets : Turns recogniseQuotes fun taken value =>
    HasNoBrackets taken ∧ HasNoBrackets value := by
  refine turns_quotes.mono ?_
  rintro taken value ⟨⟨opening, closing, rfl, hopening, hclosing⟩, rfl⟩
  have hquote : isQuote '(' = false ∧ isQuote ')' = false := by decide
  obtain ⟨hopen, hclose⟩ := hasNoBrackets_filterToken
  have hne : ∀ c, isQuote c = true → '(' ≠ c ∧ ')' ≠ c := by
    intro c hc
    constructor
    · rintro rfl
      rw [hquote.1] at hc
      cases hc
    · rintro rfl
      rw [hquote.2] at hc
      cases hc
  refine ⟨⟨?_, ?_⟩, hopen, hclose⟩
  · simp [hopen, (hne opening hopening).1, (hne closing hclosing).1]
  · simp [hclose, (hne opening hopening).2, (hne closing hclosing).2]

theorem turns_blanks_brackets : Turns recogniseBlanks fun taken value =>
    HasNoBrackets taken ∧ HasNoBrackets value := by
  refine turns_blanks.mono ?_
  rintro taken value ⟨gap, rfl, hgap, rfl⟩
  obtain ⟨hopen, hclose⟩ := hasNoBrackets_of_isBlank hgap.2
  obtain ⟨hopen', hclose'⟩ := hasNoBrackets_filterToken
  have hname {mark : Char} (hmark : mark ∉ filterToken) : mark ∉ filterToken.drop 1 :=
    fun hmem => hmark (List.mem_of_mem_drop hmem)
  refine ⟨⟨?_, ?_⟩, hopen', hclose'⟩
  · rw [List.mem_cons, List.mem_append, not_or, not_or]
    exact ⟨by decide, hopen, hname hopen'⟩
  · rw [List.mem_cons, List.mem_append, not_or, not_or]
    exact ⟨by decide, hclose, hname hclose'⟩

namespace IsCall

variable {taken : List Char}

-- Up to its end a call closes no bracket, and it opens one at least.
theorem exists_body (h : IsCall taken) :
    ∃ body, taken = body ++ [')'] ∧ ')' ∉ body ∧ body.count '(' = taken.count '(' := by
  obtain ⟨gap, inside, rfl, hgap, hinside⟩ := h
  have hblank := (hasNoBrackets_of_isBlank hgap).2
  have htoken := hasNoBrackets_filterToken.2
  refine ⟨filterToken ++ (gap ++ '(' :: inside), by simp, ?_, ?_⟩
  · simp [htoken, hblank, hinside]
  · simp

theorem count_pos (h : IsCall taken) : 0 < taken.count '(' := by
  obtain ⟨gap, inside, rfl, -⟩ := h
  simp only [List.count_append, List.count_cons_self]
  omega

theorem depth_eq (h : IsCall taken) : depth taken = taken.count '(' - 1 := by
  obtain ⟨body, rfl, hbody, -⟩ := h.exists_body
  rw [depth, List.count_append (a := ')'), List.count_eq_zero_of_not_mem hbody]
  simp

theorem takeWhile_append (h : IsCall taken) (rest : List Char) :
    ((taken ++ rest).takeWhile (· ≠ ')')).count '(' = taken.count '(' := by
  obtain ⟨body, rfl, hbody, -⟩ := h.exists_body
  rw [List.append_assoc, List.takeWhile_append_of_pos]
  · simp
  · intro c hc
    exact decide_eq_true (fun heq => hbody (heq ▸ hc))

-- A call without further brackets keeps the brackets of what follows it balanced.
theorem staysOpen_rest (h : IsCall taken) (hcount : taken.count '(' = 1) {height : Int}
    {rest : List Char} (hstays : StaysOpen height (taken ++ rest)) : StaysOpen height rest := by
  have hrest := (staysOpen_append.mp hstays).2
  rwa [h.depth_eq, hcount, show ((1 : Nat) : Int) - 1 = 0 from rfl, Int.add_zero] at hrest

end IsCall

theorem lightens_depth_call : Lightens depth recogniseCall := by
  refine lightens_of_turns isAdditive_depth (turns_call.mono ?_)
  rintro taken value ⟨hcall, rfl⟩
  have hpos := hcall.count_pos
  rw [hasNoBrackets_filterToken.depth_eq, hcall.depth_eq]
  omega

-- Whether the argument of some call opens a bracket before the first one is closed.
def NestsCall (text : List Char) : Prop :=
  ∃ start taken rest, text = start ++ (taken ++ rest) ∧ IsCall taken ∧ 1 < taken.count '('

theorem NestsCall.append {start rest : List Char} (h : NestsCall rest) :
    NestsCall (start ++ rest) := by
  obtain ⟨first, taken, after, rfl, hcall, hcount⟩ := h
  exact ⟨start ++ first, taken, after, by simp, hcall, hcount⟩

-- What nests does not begin within a call that does not nest: both would end at the same bracket.
theorem NestsCall.of_append {taken rest : List Char} (h : NestsCall (taken ++ rest))
    (hcall : IsCall taken) (hcount : taken.count '(' ≤ 1) : NestsCall rest := by
  obtain ⟨start, nested, after, heq, hnested, hnests⟩ := h
  rcases List.append_eq_append_iff.mp heq with ⟨more, rfl, hrest⟩ | ⟨more, htaken, hmore⟩
  · exact ⟨more, nested, after, hrest, hnested, hnests⟩
  · obtain ⟨body, rfl, hbody, hsame⟩ := hcall.exists_body
    rcases List.eq_nil_or_concat more with rfl | ⟨inner, last, rfl⟩
    · exact ⟨[], nested, after, by simpa using hmore.symm, hnested, hnests⟩
    · rw [List.concat_eq_append, ← List.append_assoc] at htaken
      obtain ⟨rfl, hlast⟩ := List.append_inj' htaken rfl
      obtain rfl := List.head_eq_of_cons_eq hlast
      have hfirst := hnested.takeWhile_append after
      rw [hmore, List.concat_eq_append, List.append_assoc, List.takeWhile_append_of_pos] at hfirst
      · simp only [List.count_append] at hsame hcount
        simp at hfirst
        omega
      · intro c hc
        exact decide_eq_true (fun heq => hbody (heq ▸ List.mem_append_right _ hc))

theorem staysOpen_call {text : List Char} (h : ¬ NestsCall text) {height : Int}
    (hstays : StaysOpen height text) : StaysOpen height (replaceAll recogniseCall text) := by
  have hall : ∀ before text, ¬ NestsCall text → ∀ height, StaysOpen height text →
      StaysOpen height (replaceFrom recogniseCall before 0 text) := by
    refine scan_induction turns_call ?_ ?_ ?_
    · intro before _ height hstays
      exact hstays
    · intro before c rest hnone ih hflat height hstays
      rw [replaceFrom_keep hnone]
      exact ⟨hstays.1, ih (fun hnests => hflat (NestsCall.append hnests : NestsCall ([c] ++ rest))) _ hstays.2⟩
    · rintro before taken rest value hne ⟨hcall, rfl⟩ hhit ih hflat height hstays
      have hcount : taken.count '(' = 1 := by
        refine Nat.le_antisymm (Nat.le_of_not_lt fun hnests => hflat ?_) hcall.count_pos
        exact ⟨[], taken, rest, rfl, hcall, hnests⟩
      rw [replaceFrom_hit hne hhit, hasNoBrackets_filterToken.staysOpen_iff]
      exact ih (fun hnests => hflat hnests.append) _ (hcall.staysOpen_rest hcount hstays)
  exact hall none text h height hstays

-- A call that nests leaves behind closing brackets that no bracket opens.
theorem depth_call_lt {text : List Char} (h : NestsCall text) :
    depth (replaceAll recogniseCall text) < depth text := by
  have hall : ∀ before text, NestsCall text →
      depth (replaceFrom recogniseCall before 0 text) < depth text := by
    refine scan_induction turns_call ?_ ?_ ?_
    · rintro before ⟨start, taken, rest, heq, hcall, hcount⟩
      have hnil := congrArg (List.count '(') heq
      simp only [List.count_nil, List.count_append] at hnil
      omega
    · rintro before c rest hnone ih ⟨start, taken, after, heq, hcall, hcount⟩
      cases start with
      | nil =>
          have hsome : (recogniseCall before (c :: rest)).isSome :=
            finds_call.isSome_iff.mpr ⟨taken, after, heq, hcall⟩
          rw [hnone] at hsome
          cases hsome
      | cons d start =>
          have hrest := ih ⟨start, taken, after, (List.cons.inj heq).2, hcall, hcount⟩
          rw [replaceFrom_keep hnone, isAdditive_depth.cons, isAdditive_depth.cons c rest]
          omega
    · rintro before taken rest value hne ⟨hcall, rfl⟩ hhit ih hnests
      have hpos := hcall.count_pos
      have hrest := weigh_replaceFrom_le isAdditive_depth
        (turns_call.mono fun taken value h => by
          have := h.1.count_pos
          rw [h.2, hasNoBrackets_filterToken.depth_eq, h.1.depth_eq]
          omega) (taken.getLast?.or before) rest
      rw [replaceFrom_hit hne hhit, isAdditive_depth, isAdditive_depth,
        hasNoBrackets_filterToken.depth_eq, hcall.depth_eq]
      by_cases hcount : 1 < taken.count '('
      · omega
      · have hlater := ih (hnests.of_append hcall (by omega))
        omega
  exact hall none text h

end Misuse

namespace Sanitizer

open Misuse

theorem isBalanced_repairFilter_iff_call {query : List Char} :
    IsBalanced (repairFilter query) ↔ IsBalanced (Misuse.call.repair query) :=
  (isBalanced_replaceAll_iff turns_blanks_brackets).trans
    (isBalanced_replaceAll_iff turns_quotes_brackets)

-- Repairing the filters of a balanced query keeps it balanced, unless a call nests.
theorem isBalanced_repairFilter_iff {query : List Char} (h : IsBalanced query) :
    IsBalanced (repairFilter query) ↔ ¬ NestsCall query := by
  obtain ⟨hstays, hdepth⟩ := isBalanced_iff.mp h
  rw [isBalanced_repairFilter_iff_call, isBalanced_iff]
  constructor
  · rintro ⟨-, hrepaired⟩ hnests
    have hlt := depth_call_lt hnests
    rw [Misuse.repair, Misuse.recognise] at hrepaired
    omega
  · intro hflat
    have hopen : StaysOpen 0 (Misuse.call.repair query) := staysOpen_call hflat hstays
    have hle : depth (Misuse.call.repair query) ≤ depth query := lightens_depth_call query
    have hge := staysOpen_iff.mp hopen _ (List.prefix_refl _)
    exact ⟨hopen, by omega⟩

-- Calls among other brackets, one of them in quotation marks, and one that nests.
def bracketed : String := "WHERE (a = f(b) AND ($__timeFilter ( ts )) OR ('$__timeFilter(x)'))"
def nested : String := "SELECT * FROM m WHERE $__timeFilter(date(ts))"

theorem isBalanced_repairFilter_bracketed :
    IsBalanced bracketed.toList ∧ ¬ NestsCall bracketed.toList ∧
      IsBalanced nested.toList ∧ NestsCall nested.toList := by
  have hbracketed : IsBalanced bracketed.toList := by decide +kernel
  have hnested : IsBalanced nested.toList := by decide +kernel
  refine ⟨hbracketed, (isBalanced_repairFilter_iff hbracketed).mp (by decide +kernel), hnested, ?_⟩
  rw [← not_not (a := NestsCall nested.toList), ← isBalanced_repairFilter_iff hnested]
  decide +kernel

-- The bracket that closes the call itself is left behind.
theorem unbalanced_of_nested :
    IsBalanced nested.toList ∧
      repairFilter nested.toList = "SELECT * FROM m WHERE $__timeFilter)".toList ∧
      ¬ IsBalanced (repairFilter nested.toList) := by
  decide +kernel

end Sanitizer

end TimePanel
