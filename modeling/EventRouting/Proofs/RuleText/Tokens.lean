import EventRouting.Proofs.RuleText.Spelling

set_option autoImplicit false

namespace EventRouting.RuleText

open Text

theorem not_blank_of_bare {c : Char} (bare : isBare c = true) : isBlank c = false := by
  simp only [isBare, Bool.and_eq_true, Bool.not_eq_true'] at bare
  exact bare.1

theorem blanks_nil : Blanks [] := by simp [Blanks]

theorem blanks_space : Blanks [' '] := by simp [Blanks, isBlank]

theorem dropBlanks_append {blanks : List Char} (blank : Blanks blanks) (rest : List Char) :
    dropBlanks (blanks ++ rest) = dropBlanks rest := by
  induction blanks with
  | nil => rfl
  | cons c more ih =>
    rw [List.cons_append, dropBlanks_cons_of_blank (blank c List.mem_cons_self)]
    exact ih fun d inside => blank d (List.mem_cons_of_mem c inside)

theorem forall_head_cons {holds : Char → Prop} {c : Char} {rest : List Char} :
    (∀ d ∈ (c :: rest).head?, holds d) ↔ holds c := by
  simp

/-- The text is empty or begins with a visible character. -/
def Visible (text : List Char) : Prop := ∀ c ∈ text.head?, isBlank c = false

theorem dropBlanks_visible {text : List Char} (visible : Visible text) : dropBlanks text = text := by
  cases text with
  | nil => rfl
  | cons c rest => exact dropBlanks_cons_of_not_blank (visible c rfl)

theorem takeWhile_blanks {blanks rest : List Char} (blank : Blanks blanks) (visible : Visible rest) :
    (blanks ++ rest).takeWhile isBlank = blanks := by
  rw [List.takeWhile_append_of_pos blank]
  cases rest with
  | nil => simp
  | cons c more => simp [visible c rfl]

/-- The text is empty or begins with a character that ends a bare token. -/
def EndsBare (text : List Char) : Prop := ∀ c ∈ text.head?, isBare c = false

theorem scanBare_append {value rest : List Char} (some : value ≠ [])
    (bare : ∀ c ∈ value, isBare c = true)
    (ends : EndsBare rest) : scanBare (value ++ rest) = .some (value, rest) := by
  have taken : (value ++ rest).takeWhile isBare = value := by
    rw [List.takeWhile_append_of_pos bare]
    cases rest with
    | nil => simp
    | cons c more => simp [ends c rfl]
  have dropped : (value ++ rest).dropWhile isBare = rest := by
    rw [List.dropWhile_append_of_pos bare]
    cases rest with
    | nil => rfl
    | cons c more => simp [ends c rfl]
  unfold scanBare
  rw [taken, dropped]
  cases value with
  | nil => exact absurd rfl some
  | cons c more => rfl

theorem readString_append {text value : List Char} (quoted : Quoted text value) (done rest : List Char) :
    Json.readString done (text ++ '"' :: rest) = some (done.reverse ++ value, rest) := by
  induction quoted generalizing done with
  | nil => simp [Json.readString]
  | plain printable notQuote notBackslash _ ih =>
    rename_i c text value _
    have notControl : ¬(decide (c.toNat < 0x20) || c == '\\') = true := by
      simp [notBackslash]
      omega
    rw [List.cons_append, Json.readString.eq_5 _ _ _ notQuote
      (fun _ _ _ _ _ same => absurd same notBackslash)
      (fun _ _ same => absurd same notBackslash), if_neg notControl, ih]
    simp
  | escape escapes _ ih =>
    rename_i c meant text value _
    have notUnit : c ≠ 'u' := by
      rintro rfl
      simp [Json.escape?] at escapes
    rw [List.cons_append, List.cons_append,
      Json.readString.eq_4 _ _ _ (fun _ _ _ _ _ same => absurd same notUnit), escapes]
    simp [ih]
  | unit digits notHigh notLow _ ih =>
    simp only [List.cons_append]
    rw [Json.readString.eq_3, digits]
    simp [notHigh, notLow, ih]
  | pair first second isHigh isLow _ ih =>
    simp only [List.cons_append]
    rw [Json.readString.eq_3, first]
    simp [isHigh, second, isLow, ih]

theorem scanString_bare {value rest : List Char} (some : value ≠ [])
    (bare : ∀ c ∈ value, isBare c = true)
    (ends : EndsBare rest) : scanString (value ++ rest) = .some (value, rest) := by
  have scanned := scanBare_append some bare ends
  cases value with
  | nil => exact absurd rfl some
  | cons c more =>
    have notQuote : c ≠ '"' := by
      rintro rfl
      simpa [isBare, delimiters] using bare '"' List.mem_cons_self
    rw [List.cons_append] at scanned ⊢
    rw [scanString.eq_2 _ (fun _ same => notQuote (List.cons.inj same).1), scanned]

theorem scanSource_append {source : List Char} (spelled : SourceText source) (rest : List Char) :
    scanSource (source ++ '/' :: rest) = some (source, rest) := by
  induction spelled with
  | nil => rw [List.nil_append, scanSource.eq_1]
  | escaped sameLine _ ih =>
    rw [List.cons_append, List.cons_append, scanSource.eq_2, if_neg sameLine, ih]
    rfl
  | plain notBackslash notSlash _ ih =>
    rw [List.cons_append, scanSource.eq_4 _ _ notSlash (fun _ _ same => absurd same notBackslash)
      (fun same => absurd same notBackslash), ih]
    rfl

theorem scanRegexp_append {text : List Char} {regexp : Regexp} {rest : List Char}
    (spelled : RegexpText text regexp) (ends : ∀ c ∈ rest.head?, c ≠ 'i') :
    scanRegexp (text ++ rest) = some (regexp, rest) := by
  obtain ⟨source, valid⟩ := spelled
  rename_i source ignoreCase
  cases ignoreCase with
  | true =>
    simp only [if_true, List.cons_append, List.append_assoc, List.nil_append]
    rw [scanRegexp, scanSource_append source]
    simp [valid, Except.toOption]
  | false =>
    simp only [Bool.false_eq_true, if_false, List.cons_append, List.append_assoc, List.nil_append]
    rw [scanRegexp, scanSource_append source]
    cases rest with
    | nil => simp [valid, Except.toOption]
    | cons c more =>
      have other : c ≠ 'i' := ends c rfl
      simp [valid, Except.toOption, other]

end EventRouting.RuleText
