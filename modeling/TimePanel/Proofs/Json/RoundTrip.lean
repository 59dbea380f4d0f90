import TimePanel.Json.Printer
import TimePanel.Json.Reader

/-! What is written as JSON is read back as it was. -/

namespace TimePanel.Json

-- The four digits of a control character give back its code.
theorem hexDigits4_eq : ∀ code < 32, hexDigits4 code =
    ['0', '0', Nat.digitChar (code / 16), Nat.digitChar (code % 16)] := by
  decide

theorem codeUnit?_digits : ∀ code < 32,
    codeUnit? '0' '0' (Nat.digitChar (code / 16)) (Nat.digitChar (code % 16)) = some code := by
  decide

theorem readUnits_plain {opening : Nat} {c : Char} {rest : List Char} (hquote : c ≠ '"')
    (hback : c ≠ '\\') (hcontrol : 32 ≤ c.toNat) :
    readUnits opening (c :: rest) =
      (readUnits opening rest).map fun (units, left) => (c.toNat :: units, left) := by
  rw [readUnits, if_neg (Nat.not_lt.mpr hcontrol)]
  · exact hquote
  · exact fun _ _ _ _ _ h _ => hback h
  · exact fun _ _ h _ => hback h
  · exact fun h _ => hback h

-- Each character is read as itself, in whichever form it was written.
theorem readUnits_escape (opening : Nat) (c : Char) {rest : List Char} (hrest : rest ≠ []) :
    readUnits opening (escape c ++ rest) =
      (readUnits opening rest).map fun (units, left) => (c.toNat :: units, left) := by
  unfold escape
  split
  · next hc =>
    subst hc
    rfl
  split
  · next hc =>
    subst hc
    rfl
  split
  · next hc =>
    subst hc
    rfl
  split
  · next hc =>
    subst hc
    rfl
  split
  · next hc =>
    subst hc
    rfl
  split
  · next hc =>
    obtain rfl : c = '\x08' := Char.toNat_inj.mp hc
    rfl
  split
  · next hc =>
    obtain rfl : c = '\x0c' := Char.toNat_inj.mp hc
    rfl
  split
  · next hcontrol =>
    rw [hexDigits4_eq _ hcontrol]
    have hcode := codeUnit?_digits _ hcontrol
    simp only [List.cons_append, List.nil_append, readUnits, hcode, List.isEmpty_iff, hrest]
    rfl
  · next hquote hback _ _ _ _ _ hcontrol =>
    exact readUnits_plain hquote hback (by omega)

theorem readUnits_chars (opening : Nat) (text rest : List Char) :
    readUnits opening (text.flatMap escape ++ '"' :: rest) = .ok (text.map Char.toNat, rest) := by
  induction text with
  | nil => rfl
  | cons c text ih =>
      rw [List.flatMap_cons, List.append_assoc, readUnits_escape opening c (by simp), ih]
      rfl

-- Characters are no halves of surrogate pairs.
theorem not_isHalf (c : Char) : isHighHalf c.toNat = false ∧ isLowHalf c.toNat = false := by
  have hvalid : c.toNat < 0xD800 ∨ 0xDFFF < c.toNat ∧ c.toNat < 0x110000 := c.valid
  simp only [isHighHalf, isLowHalf, Bool.and_eq_false_iff, decide_eq_false_iff_not]
  omega

theorem joinUnits_chars (tolerant : Bool) (text : List Char) :
    joinUnits tolerant (text.map Char.toNat) = some text := by
  induction text with
  | nil => rfl
  | cons c text ih =>
      obtain ⟨hhigh, hlow⟩ := not_isHalf c
      cases text with
      | nil => simp [joinUnits, hhigh, hlow, Char.ofNat_toNat]
      | cons d text =>
          rw [List.map_cons, List.map_cons] at *
          simp [joinUnits, hhigh, hlow, ih, Char.ofNat_toNat]

theorem readString_chars (dialect : Dialect) (s : String) (rest : List Char) :
    readString dialect (s.toList.flatMap escape ++ '"' :: rest) = .ok (s, rest) := by
  simp only [readString, readUnits_chars, bind, Except.bind, joinUnits_chars]
  rw [String.ofList_toList]
  rfl

-- Blanks between the parts of lists and objects are passed over.
theorem skipSpace_of_not_isSpace {c : Char} {text : List Char} (h : isSpace c = false) :
    skipSpace (c :: text) = c :: text := by
  simp [skipSpace, h]

theorem skipSpace_append {blanks : List Char} (h : ∀ c ∈ blanks, isSpace c = true)
    (text : List Char) : skipSpace (blanks ++ text) = skipSpace text := by
  induction blanks with
  | nil => rfl
  | cons c blanks ih =>
      have hc := h c List.mem_cons_self
      have hrest := ih (fun d hd => h d (List.mem_cons_of_mem _ hd))
      simp only [skipSpace, List.cons_append, List.dropWhile_cons, hc, if_true] at hrest ⊢
      exact hrest

theorem skipSpace_lineBreak (layout : Layout) (depth : Nat) (text : List Char) :
    skipSpace (layout.lineBreak depth ++ text) = skipSpace text := by
  apply skipSpace_append
  intro c hc
  cases layout with
  | compact => cases hc
  | indented step =>
      simp only [Layout.lineBreak, List.mem_cons, List.mem_replicate] at hc
      rcases hc with rfl | ⟨-, rfl⟩ <;> rfl

theorem colon_eq (layout : Layout) :
    ∃ blanks, layout.colon = ':' :: blanks ∧ ∀ c ∈ blanks, isSpace c = true := by
  cases layout with
  | compact => exact ⟨[], rfl, by simp⟩
  | indented step => exact ⟨[' '], rfl, List.all_eq_true.mp (by decide)⟩

mutual

-- Values without numbers and dates, in whose objects no key stands twice.
def isPlain : Cell → Bool
  | .null | .bool _ | .text _ => true
  | .list items => allPlain items
  | .object fields => fieldsPlain fields
  | _ => false

def allPlain : List Cell → Bool
  | [] => true
  | item :: rest => isPlain item && allPlain rest

def fieldsPlain : List (String × Cell) → Bool
  | [] => true
  | (key, value) :: rest =>
      (rest.all fun field => key ≠ field.1) && isPlain value && fieldsPlain rest

end

mutual

-- How deep lists and objects stand inside one another.
def nesting : Cell → Nat
  | .list items => itemsNesting items + 1
  | .object fields => fieldsNesting fields + 1
  | _ => 0

def itemsNesting : List Cell → Nat
  | [] => 0
  | item :: rest => max (nesting item) (itemsNesting rest)

def fieldsNesting : List (String × Cell) → Nat
  | [] => 0
  | (_, value) :: rest => max (nesting value) (fieldsNesting rest)

end

-- No value begins with a blank, a closing bracket or a mark of the byte order.
theorem chars_head (layout : Layout) (column : Nat) {cell : Cell} (h : isPlain cell = true) :
    ∃ c tail, chars layout column cell = c :: tail ∧ isSpace c = false ∧ c ≠ ']' ∧
      c ≠ orderMark := by
  cases cell with
  | null => exact ⟨'n', _, rfl, by decide, by decide, by decide⟩
  | bool value =>
      cases value with
      | true => exact ⟨'t', _, rfl, by decide, by decide, by decide⟩
      | false => exact ⟨'f', _, rfl, by decide, by decide, by decide⟩
  | text value => exact ⟨'"', _, rfl, by decide, by decide, by decide⟩
  | list items =>
      rw [chars, enclose]
      split
      · exact ⟨'[', _, rfl, by decide, by decide, by decide⟩
      · exact ⟨'[', _, rfl, by decide, by decide, by decide⟩
  | object fields =>
      rw [chars, enclose]
      split
      · exact ⟨'\x7b', _, rfl, by decide, by decide, by decide⟩
      · exact ⟨'\x7b', _, rfl, by decide, by decide, by decide⟩
  | _ => cases h

-- The parts of a list or an object in a row.
def joined (separator : List Char) (parts : List (List Char)) : List Char :=
  (parts.intersperse separator).flatten

theorem joined_singleton (separator part : List Char) : joined separator [part] = part := by
  simp [joined]

theorem joined_cons (separator part next : List Char) (rest : List (List Char)) :
    joined separator (part :: next :: rest) =
      part ++ separator ++ joined separator (next :: rest) := by
  simp [joined]

theorem enclose_cons (opening closing : Char) (layout : Layout) (depth : Nat) (part : List Char)
    (parts : List (List Char)) :
    enclose opening closing layout depth (part :: parts) =
      opening :: (layout.lineBreak (depth + 1) ++
        joined (',' :: layout.lineBreak (depth + 1)) (part :: parts) ++ layout.lineBreak depth ++
        [closing]) := by
  simp [enclose, joined]

theorem setField_of_not_mem {fields : List (String × Cell)} {key : String} {value : Cell}
    (h : ∀ field ∈ fields, key ≠ field.1) :
    setField fields key value = fields ++ [(key, value)] := by
  have hnone : fields.lookup key = none := by
    rw [List.lookup_eq_none_iff]
    intro field hfield
    simpa using h field hfield
  simp [setField, Row.set, Row.has, hnone]

theorem joined_head (separator : List Char) {part tail : List Char} {c : Char}
    (h : part = c :: tail) (rest : List (List Char)) :
    ∃ more, joined separator (part :: rest) = c :: more := by
  subst h
  cases rest with
  | nil => exact ⟨tail, joined_singleton _ _⟩
  | cons next rest => exact ⟨tail ++ separator ++ joined separator (next :: rest), joined_cons ..⟩

section

variable {dialect : Dialect} {depth fuel : Nat}

theorem readItems_last {before : List Cell} {item : Cell} {text blanks rest : List Char}
    (h : readValue dialect depth fuel text = .ok (item, blanks))
    (hblanks : skipSpace blanks = ']' :: rest) :
    readItems dialect depth (fuel + 1) before text = .ok (.list (before ++ [item]), rest) := by
  simp only [readItems, h, bind, Except.bind, hblanks]
  rfl

theorem readItems_more {before : List Cell} {item : Cell} {text rest : List Char}
    (h : readValue dialect depth fuel text = .ok (item, ',' :: rest)) :
    readItems dialect depth (fuel + 1) before text =
      readItems dialect depth fuel (before ++ [item]) (skipSpace rest) := by
  have hcomma : skipSpace (',' :: rest) = ',' :: rest := skipSpace_of_not_isSpace rfl
  simp only [readItems, h, bind, Except.bind, hcomma]
  rfl

-- A field up to its value.
theorem readFields_value {before : List (String × Cell)} (layout : Layout) (key : String)
    {value : Cell} {text blanks : List Char} {c : Char} {tail : List Char}
    (htext : text = c :: tail) (hc : isSpace c = false)
    (h : readValue dialect depth fuel text = .ok (value, blanks)) :
    readFields dialect depth (fuel + 1) before (stringChars key ++ (layout.colon ++ text)) =
      match skipSpace blanks with
      | '\x7d' :: left => .ok (.object (setField before key value), left)
      | left =>
          (expect ',' left).bind fun left =>
            readFields dialect depth fuel (setField before key value) (skipSpace left) := by
  obtain ⟨spaces, hcolon, hspaces⟩ := colon_eq layout
  have hkey : readString dialect (key.toList.flatMap escape ++ '"' :: (':' :: (spaces ++ text))) =
      .ok (key, ':' :: (spaces ++ text)) := readString_chars dialect key _
  have hmark : skipSpace (':' :: (spaces ++ text)) = ':' :: (spaces ++ text) :=
    skipSpace_of_not_isSpace rfl
  have hvalue : skipSpace (spaces ++ text) = text := by
    rw [skipSpace_append hspaces, htext, skipSpace_of_not_isSpace hc]
  simp only [stringChars, hcolon, List.cons_append, List.append_assoc, List.nil_append, readFields,
    expect, if_true, bind, Except.bind, hkey, hmark, hvalue, h]
  rfl

theorem readFields_last {before : List (String × Cell)} (layout : Layout) (key : String)
    {value : Cell} {text blanks rest : List Char} {c : Char} {tail : List Char}
    (htext : text = c :: tail) (hc : isSpace c = false)
    (h : readValue dialect depth fuel text = .ok (value, blanks))
    (hblanks : skipSpace blanks = '\x7d' :: rest) :
    readFields dialect depth (fuel + 1) before (stringChars key ++ (layout.colon ++ text)) =
      .ok (.object (setField before key value), rest) := by
  rw [readFields_value layout key htext hc h, hblanks]
  rfl

theorem readFields_more {before : List (String × Cell)} (layout : Layout) (key : String)
    {value : Cell} {text rest : List Char} {c : Char} {tail : List Char}
    (htext : text = c :: tail) (hc : isSpace c = false)
    (h : readValue dialect depth fuel text = .ok (value, ',' :: rest)) :
    readFields dialect depth (fuel + 1) before (stringChars key ++ (layout.colon ++ text)) =
      readFields dialect depth fuel (setField before key value) (skipSpace rest) := by
  rw [readFields_value layout key htext hc h, skipSpace_of_not_isSpace rfl]
  rfl

end

section

variable {dialect : Dialect} {layout : Layout}

theorem readItems_of_chars {depth fuel : Nat} {text rest : List Char} {cell : Cell} {c : Char}
    {tail : List Char} (hopen : ¬ dialect.maxDepth ≤ depth) (htext : skipSpace text = c :: tail)
    (hc : c ≠ ']') (h : readItems dialect (depth + 1) fuel [] (c :: tail) = .ok (cell, rest)) :
    readValue dialect depth (fuel + 1) ('[' :: text) = .ok (cell, rest) := by
  simp only [readValue, if_neg hopen, htext]
  split
  · next left heq => exact absurd (List.cons.inj heq).1 hc
  · exact h

theorem readFields_of_chars {depth fuel : Nat} {text rest : List Char} {cell : Cell} {c : Char}
    {tail : List Char} (hopen : ¬ dialect.maxDepth ≤ depth) (htext : skipSpace text = c :: tail)
    (hc : c ≠ '\x7d') (h : readFields dialect (depth + 1) fuel [] (c :: tail) = .ok (cell, rest)) :
    readValue dialect depth (fuel + 1) ('\x7b' :: text) = .ok (cell, rest) := by
  simp only [readValue, if_neg hopen, htext]
  split
  · next left heq => exact absurd (List.cons.inj heq).1 hc
  · exact h

-- A field begins with the quotation mark of its key.
theorem fieldChars_head (layout : Layout) (column : Nat) (key : String) (value : Cell) :
    stringChars key ++ layout.colon ++ chars layout column value =
      '"' :: (key.toList.flatMap escape ++ '"' :: (layout.colon ++ chars layout column value)) := by
  simp [stringChars]

mutual

-- The induction is on the fuel, of which every step of reading takes one. Every part of a value has
-- fewer characters than the value, so two steps for a character suffice.
theorem readValue_chars (cell : Cell) (depth column fuel : Nat) (rest : List Char)
    (hplain : isPlain cell = true) (hdepth : depth + nesting cell ≤ dialect.maxDepth)
    (hfuel : 2 * (chars layout column cell).length ≤ fuel) :
    readValue dialect depth fuel (chars layout column cell ++ rest) = .ok (cell, rest) := by
  have hpositive : 0 < fuel := by
    obtain ⟨c, tail, hchars, -⟩ := chars_head layout column hplain
    rw [hchars, List.length_cons] at hfuel
    omega
  obtain ⟨fuel, rfl⟩ : ∃ less, fuel = less + 1 := ⟨fuel - 1, by omega⟩
  match cell with
  | .null => rfl
  | .bool true => rfl
  | .bool false => rfl
  | .text value =>
      simp only [chars, stringChars, List.cons_append, List.append_assoc, List.nil_append,
        readValue,
        readString_chars]
      rfl
  | .list [] =>
      have hopen : ¬ dialect.maxDepth ≤ depth := by
        simp only [nesting, itemsNesting] at hdepth
        omega
      simp [chars, itemChars, enclose, readValue, hopen, skipSpace_of_not_isSpace, isSpace]
  | .list (item :: items) =>
      simp only [isPlain] at hplain
      simp only [nesting] at hdepth
      have hitem : isPlain item = true := by
        simp only [allPlain, Bool.and_eq_true] at hplain
        exact hplain.1
      obtain ⟨c, tail, hchars, hspace, hbracket, -⟩ :=
        chars_head layout (column + 1) hitem
      have hitems := readItems_chars item items (depth + 1) (column + 1) (column + 1) column fuel []
        rest hplain (by omega)
      obtain ⟨more, hjoined⟩ := joined_head (',' :: layout.lineBreak (column + 1)) hchars
        (itemChars layout (column + 1) items)
      rw [itemChars, hjoined] at hitems
      rw [chars, itemChars, enclose_cons, hjoined] at hfuel ⊢
      simp only [List.length_cons, List.length_append, List.length_nil] at hfuel hitems
      simp only [List.cons_append, List.append_assoc, List.nil_append] at hitems ⊢
      apply readItems_of_chars (by omega) _ hbracket (hitems (by omega))
      rw [skipSpace_lineBreak, skipSpace_of_not_isSpace hspace]
  | .object [] =>
      have hopen : ¬ dialect.maxDepth ≤ depth := by
        simp only [nesting, fieldsNesting] at hdepth
        omega
      simp [chars, fieldChars, enclose, readValue, hopen, skipSpace_of_not_isSpace, isSpace]
  | .object ((key, value) :: fields) =>
      simp only [isPlain] at hplain
      simp only [nesting] at hdepth
      have hfields := readFields_chars key value fields (depth + 1) (column + 1) (column + 1) column
        fuel [] rest hplain (by simp) (by omega)
      obtain ⟨more, hjoined⟩ := joined_head (',' :: layout.lineBreak (column + 1))
        (fieldChars_head layout (column + 1) key value) (fieldChars layout (column + 1) fields)
      rw [fieldChars, hjoined] at hfields
      rw [chars, fieldChars, enclose_cons, hjoined] at hfuel ⊢
      simp only [List.length_cons, List.length_append, List.length_nil] at hfuel hfields
      simp only [List.cons_append, List.append_assoc, List.nil_append] at hfields ⊢
      apply readFields_of_chars (by omega) _ (by decide) (hfields (by omega))
      rw [skipSpace_lineBreak, skipSpace_of_not_isSpace rfl]
  | .int _ | .float _ | .dateTime _ | .date _ | .time _ | .instant _ | .unit _ | .record _ _ =>
      cases hplain
termination_by fuel

theorem readItems_chars (item : Cell) (items : List Cell) (depth column inner outer fuel : Nat)
    (before : List Cell) (rest : List Char) (hplain : allPlain (item :: items) = true)
    (hdepth : depth + itemsNesting (item :: items) ≤ dialect.maxDepth)
    (hfuel : 2 * ((joined (',' :: layout.lineBreak inner)
      (itemChars layout column (item :: items))).length + 1) ≤ fuel) :
    readItems dialect depth fuel before
      (joined (',' :: layout.lineBreak inner) (itemChars layout column (item :: items)) ++
        (layout.lineBreak outer ++ ']' :: rest)) =
      .ok (.list (before ++ item :: items), rest) := by
  obtain ⟨fuel, rfl⟩ : ∃ less, fuel = less + 1 := ⟨fuel - 1, by omega⟩
  simp only [allPlain, Bool.and_eq_true] at hplain
  simp only [itemsNesting] at hdepth
  match items with
  | [] =>
      rw [itemChars, itemChars, joined_singleton] at hfuel ⊢
      have hvalue := readValue_chars item depth column fuel (layout.lineBreak outer ++ ']' :: rest)
        hplain.1 (by omega) (by omega)
      apply readItems_last hvalue
      rw [skipSpace_lineBreak, skipSpace_of_not_isSpace rfl]
  | next :: items =>
      rw [itemChars, itemChars, joined_cons, ← itemChars] at hfuel ⊢
      simp only [List.length_append, List.length_cons] at hfuel
      have hnext : isPlain next = true := by
        simp only [allPlain, Bool.and_eq_true] at hplain
        exact hplain.2.1
      obtain ⟨c, tail, hchars, hspace, -⟩ := chars_head layout column hnext
      obtain ⟨more, hjoined⟩ := joined_head (',' :: layout.lineBreak inner) hchars
        (itemChars layout column items)
      have hitems :=
        readItems_chars next items depth column inner outer fuel (before ++ [item]) rest
        hplain.2 (by omega) (by omega)
      have hvalue := readValue_chars item depth column fuel
        (',' :: (layout.lineBreak inner ++ (c :: more ++ (layout.lineBreak outer ++ ']' :: rest))))
        hplain.1 (by omega) (by omega)
      rw [itemChars, hjoined] at hitems ⊢
      rw [List.append_assoc, List.append_assoc, List.cons_append, readItems_more hvalue,
        skipSpace_lineBreak, List.cons_append, skipSpace_of_not_isSpace hspace, ← List.cons_append,
        hitems, List.append_assoc]
      rfl
termination_by fuel

theorem readFields_chars (key : String) (value : Cell) (fields : List (String × Cell))
    (depth column inner outer fuel : Nat) (before : List (String × Cell)) (rest : List Char)
    (hplain : fieldsPlain ((key, value) :: fields) = true)
    (hnew : ∀ field ∈ (key, value) :: fields, ∀ old ∈ before, field.1 ≠ old.1)
    (hdepth : depth + fieldsNesting ((key, value) :: fields) ≤ dialect.maxDepth)
    (hfuel : 2 * ((joined (',' :: layout.lineBreak inner)
      (fieldChars layout column ((key, value) :: fields))).length + 1) ≤ fuel) :
    readFields dialect depth fuel before
      (joined (',' :: layout.lineBreak inner) (fieldChars layout column ((key, value) :: fields)) ++
        (layout.lineBreak outer ++ '\x7d' :: rest)) =
      .ok (.object (before ++ (key, value) :: fields), rest) := by
  obtain ⟨fuel, rfl⟩ : ∃ less, fuel = less + 1 := ⟨fuel - 1, by omega⟩
  simp only [fieldsPlain, Bool.and_eq_true] at hplain
  obtain ⟨⟨hkeys, hvalue⟩, hfields⟩ := hplain
  simp only [fieldsNesting] at hdepth
  obtain ⟨c, tail, hchars, hspace, -⟩ := chars_head layout column hvalue
  have hset : setField before key value = before ++ [(key, value)] :=
    setField_of_not_mem (hnew _ List.mem_cons_self)
  match fields with
  | [] =>
      rw [fieldChars, fieldChars, joined_singleton] at hfuel ⊢
      simp only [List.length_append] at hfuel
      have hread :=
        readValue_chars value depth column fuel (layout.lineBreak outer ++ '\x7d' :: rest)
        hvalue (by omega) (by omega)
      rw [List.append_assoc, List.append_assoc, readFields_last layout key
        (by rw [hchars, List.cons_append]) hspace hread
        (by rw [skipSpace_lineBreak, skipSpace_of_not_isSpace rfl]), hset]
  | (next, nextValue) :: fields =>
      rw [fieldChars, fieldChars, joined_cons, ← fieldChars] at hfuel ⊢
      simp only [List.length_append, List.length_cons] at hfuel
      have hnewer : ∀ field ∈ (next, nextValue) :: fields,
          ∀ old ∈ before ++ [(key, value)], field.1 ≠ old.1 := by
        intro field hfield old hold
        rcases List.mem_append.mp hold with hold | hold
        · exact hnew field (List.mem_cons_of_mem _ hfield) old hold
        · rw [List.mem_singleton.mp hold]
          have hdistinct := List.all_eq_true.mp hkeys field hfield
          exact fun heq => (of_decide_eq_true hdistinct) heq.symm
      have hmore := readFields_chars next nextValue fields depth column inner outer fuel
        (before ++ [(key, value)]) rest hfields hnewer (by omega) (by omega)
      obtain ⟨more, hjoined⟩ := joined_head (',' :: layout.lineBreak inner)
        (fieldChars_head layout column next nextValue) (fieldChars layout column fields)
      have hread := readValue_chars value depth column fuel
        (',' :: (layout.lineBreak inner ++
          ('"' :: more ++ (layout.lineBreak outer ++ '\x7d' :: rest))))
        hvalue (by omega) (by omega)
      rw [fieldChars, hjoined] at hmore ⊢
      rw [List.append_assoc, List.append_assoc, List.append_assoc, List.append_assoc,
        List.cons_append,
        readFields_more layout key (by rw [hchars, List.cons_append]) hspace hread,
        skipSpace_lineBreak, List.cons_append, skipSpace_of_not_isSpace rfl, ← List.cons_append,
        hset, hmore, List.append_assoc]
      rfl
termination_by fuel

end

end

-- A text written from a plain value is read as that value, as long as it is not too deep.
theorem read_render {dialect : Dialect} (layout : Layout) {cell : Cell}
    (hplain : isPlain cell = true) (hdepth : nesting cell ≤ dialect.maxDepth) :
    read dialect (render layout cell) = .ok cell := by
  obtain ⟨c, tail, hchars, hspace, -, hmark⟩ := chars_head layout 0 hplain
  have hvalue : readValue dialect 0 (2 * (chars layout 0 cell).length + 2)
      (chars layout 0 cell ++ []) = .ok (cell, []) :=
    readValue_chars cell 0 0 _ [] hplain (by omega) (Nat.le_add_right _ 2)
  rw [List.append_nil, hchars] at hvalue
  simp only [read, render, String.toList_ofList, hchars, hmark, false_and, if_false,
    skipSpace_of_not_isSpace hspace, hvalue, bind, Except.bind]
  rfl

end TimePanel.Json
