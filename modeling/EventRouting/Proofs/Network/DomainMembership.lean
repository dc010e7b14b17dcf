import EventRouting.Atom
import EventRouting.Proofs.Network.DomainSpelling
import EventRouting.Proofs.Text.Lines

set_option autoImplicit false

namespace EventRouting

open Text

variable {respell : List Char → Option (List Char)}

namespace DomainName

variable {text other : List Char}

theorem readWith_eq_ok_iff {name : List String} :
    readWith respell text = .ok name ↔
      ∃ labels, readLabelsWith respell (dropFinalDot (trim text)) = .ok labels ∧
        labels.map String.ofList = name := by
  rw [readWith]
  cases readLabelsWith respell (dropFinalDot (trim text)) <;> simp [Except.map]

/-- Both texts are the same name, or neither is a name. -/
def SameName (respell : List Char → Option (List Char)) (text other : List Char) : Prop :=
  ∀ name, readWith respell text = .ok name ↔ readWith respell other = .ok name

theorem SameName.symm (same : SameName respell text other) : SameName respell other text :=
  fun name => (same name).symm

theorem SameName.trans {last : List Char} (first : SameName respell text other)
    (second : SameName respell other last) : SameName respell text last :=
  fun name => (first name).trans (second name)

theorem SameName.of_undotted (same : dropFinalDot (trim text) = dropFinalDot (trim other)) :
    SameName respell text other := by
  intro name
  rw [readWith, readWith, same]

/-- A name is the name of its labels with dots between them. -/
theorem readWith_joined {name : List String} (read : readWith respell text = .ok name) :
    readWith respell (joinWith ['.'] (name.map String.toList)) = .ok name := by
  obtain ⟨labels, readLabels, rfl⟩ := readWith_eq_ok_iff.1 read
  rw [map_toList_map_ofList]
  obtain ⟨some, normal⟩ := labels_of_readLabelsWith readLabels
  have visible := fun c inside => @not_blank_of_code c (by have := code_of_joined normal c inside; omega)
  have trimmed : trim (joinWith ['.'] labels) = joinWith ['.'] labels :=
    trim_of_edges (fun c first => visible c (List.mem_of_mem_head? first))
      fun c last => visible c (List.mem_of_mem_getLast? last)
  refine readWith_eq_ok_iff.2 ⟨labels, ?_, rfl⟩
  rw [trimmed, dropFinalDot_joined some normal, readLabelsWith_joinWith readLabels]

/-- One dot may follow a name that ends with none. -/
theorem sameName_dotted (plain : (trim text).getLast? ≠ some '.') :
    SameName respell (trim text ++ ['.']) text := by
  apply SameName.of_undotted
  rw [trim_append_visible (by decide), dropFinalDot, if_pos (by simp), List.dropLast_concat, dropFinalDot,
    if_neg plain]

theorem normalLabelWith_toLower {label spelled : List Char} (ascii : ∀ c ∈ label, c.toNat < 128) :
    normalLabelWith respell (label.map Char.toLower) = .ok spelled ↔
      normalLabelWith respell label = .ok spelled := by
  have lowered : ∀ c ∈ label.map Char.toLower, c.toNat < 128 := by
    simpa using fun c inside => toLower_lt_ascii_iff.2 (ascii c inside)
  have twice : Char.toLower ∘ Char.toLower = Char.toLower := funext toLower_toLower
  rw [normalLabelWith_eq_ok_iff, normalLabelWith_eq_ok_iff, spellingWith?_ascii lowered,
    spellingWith?_ascii ascii, List.map_map, twice]

/-- Pieces may be changed to others that are read alike. -/
theorem mapM_map_eq_ok_iff {Piece Value Failure : Type} {read : Piece → Except Failure Value}
    {change : Piece → Piece} {pieces : List Piece} {values : List Value}
    (same : ∀ piece ∈ pieces, ∀ value, read (change piece) = .ok value ↔ read piece = .ok value) :
    (pieces.map change).mapM read = .ok values ↔ pieces.mapM read = .ok values := by
  induction pieces generalizing values with
  | nil => rfl
  | cons piece pieces ih =>
    rw [List.forall_mem_cons] at same
    rw [List.map_cons, mapM_eq_ok_cons_iff, mapM_eq_ok_cons_iff]
    simp only [same.1, ih same.2]

theorem ascii_of_mem_splitAt (ascii : ∀ c ∈ text, c.toNat < 128) :
    ∀ piece ∈ splitAt '.' text, ∀ c ∈ piece, c.toNat < 128 := by
  intro piece member c inside
  apply ascii
  rw [← joinWith_splitAt '.' text]
  exact mem_joinWith_of_mem member inside

theorem readLabelsWith_toLower {labels : List (List Char)} (ascii : ∀ c ∈ text, c.toNat < 128) :
    readLabelsWith respell (text.map Char.toLower) = .ok labels ↔
      readLabelsWith respell text = .ok labels := by
  have pieces : (splitAt '.' (text.map Char.toLower)).mapM (normalLabelWith respell) = .ok labels ↔
      (splitAt '.' text).mapM (normalLabelWith respell) = .ok labels := by
    rw [splitAt_toLower (by decide)]
    exact mapM_map_eq_ok_iff fun piece member _ =>
      normalLabelWith_toLower (ascii_of_mem_splitAt ascii piece member)
  rw [readLabelsWith_eq_ok_iff, readLabelsWith_eq_ok_iff, pieces, Ne, List.map_eq_nil_iff]

theorem dropFinalDot_toLower (text : List Char) :
    dropFinalDot (text.map Char.toLower) = (dropFinalDot text).map Char.toLower := by
  have dotted : (text.map Char.toLower).getLast? = some '.' ↔ text.getLast? = some '.' := by
    rw [List.getLast?_map, Option.map_eq_some_iff]
    simp only [toLower_eq_mark_iff (show '.'.toNat < 65 by decide)]
    simp
  unfold dropFinalDot
  simp only [dotted]
  split
  · rw [List.map_dropLast]
  · rfl

theorem mem_of_mem_dropFinalDot {c : Char} (inside : c ∈ dropFinalDot text) : c ∈ text := by
  unfold dropFinalDot at inside
  split at inside
  · exact (List.dropLast_prefix text).subset inside
  · exact inside

theorem sameName_toLower (ascii : ∀ c ∈ text, c.toNat < 128) :
    SameName respell (text.map Char.toLower) text := by
  intro name
  have inner : ∀ c ∈ dropFinalDot (trim text), c.toNat < 128 :=
    fun c inside => ascii c (mem_of_mem_trim (mem_of_mem_dropFinalDot inside))
  simp only [readWith_eq_ok_iff, trim_toLower, dropFinalDot_toLower, readLabelsWith_toLower inner]

theorem sameName_of_letters (ascii : ∀ c ∈ text, c.toNat < 128)
    (letters : other.map Char.toLower = text.map Char.toLower) : SameName respell other text := by
  have otherAscii : ∀ c ∈ other, c.toNat < 128 := by
    intro c inside
    have lowered : c.toLower ∈ text.map Char.toLower := letters ▸ List.mem_map_of_mem inside
    obtain ⟨d, member, same⟩ := List.mem_map.1 lowered
    exact toLower_lt_ascii_iff.1 (same ▸ toLower_lt_ascii_iff.2 (ascii d member))
  have lower : SameName respell (other.map Char.toLower) other := sameName_toLower otherAscii
  rw [letters] at lower
  exact lower.symm.trans (sameName_toLower ascii)

end DomainName

namespace DomainPattern

open DomainName

variable {pattern : DomainPattern}

structure IsNormal (pattern : DomainPattern) : Prop where
  some : pattern.labels ≠ []
  deep : 2 ≤ pattern.free + pattern.labels.length
  normal : ∀ label ∈ pattern.labels, IsLabel label.toList
  short : (joinWith ['.'] (pattern.labels.map String.toList)).length ≤ maxLength
  top : ∃ label, pattern.labels.getLast? = .some label ∧ ∃ c ∈ label.toList, c.isDigit = false

theorem isNormal_of_readWith {text : List Char} (made : readWith respell text = .ok pattern) :
    pattern.IsNormal := by
  obtain ⟨rest, labels, readRest, deep, same⟩ := labels_of_readWith made
  obtain ⟨some, normal⟩ := labels_of_readLabelsWith readRest
  obtain ⟨-, -, short, notNumeric⟩ := readLabelsWith_eq_ok_iff.1 readRest
  have letters : pattern.labels.map String.toList = labels := by rw [same, map_toList_map_ofList]
  constructor
  · rwa [same, Ne, List.map_eq_nil_iff]
  · rwa [same, List.length_map]
  · intro label member
    exact normal _ (letters ▸ List.mem_map_of_mem member)
  · rwa [letters, length_joined]
  · rw [List.getLast?_eq_some_getLast some, Option.getD_some, List.all_eq_false] at notNumeric
    obtain ⟨c, inside, letter⟩ := notNumeric
    refine ⟨String.ofList (labels.getLast some), ?_,
      c, by rwa [String.toList_ofList], by simpa using letter⟩
    rw [same, List.getLast?_map, List.getLast?_eq_some_getLast some, Option.map_some]

theorem contains_iff {name : List String} :
    pattern.contains name = true ↔ ∃ front, name = front ++ pattern.labels ∧
      pattern.free ≤ front.length := by
  rw [contains, Bool.and_eq_true, decide_eq_true_eq, List.isSuffixOf_iff_suffix]
  constructor
  · rintro ⟨deep, front, rfl⟩
    exact ⟨front, rfl, by rw [List.length_append] at deep; omega⟩
  · rintro ⟨front, rfl, deep⟩
    exact ⟨by rw [List.length_append]; omega, front, rfl⟩

theorem isMatch_iff {name : List String} :
    pattern.isMatch name = true ↔ ∃ front, name = front ++ pattern.labels ∧
      front.length = pattern.free := by
  rw [isMatch, Bool.and_eq_true, beq_iff_eq, List.isSuffixOf_iff_suffix]
  constructor
  · rintro ⟨deep, front, rfl⟩
    exact ⟨front, rfl, by rw [List.length_append] at deep; omega⟩
  · rintro ⟨front, rfl, deep⟩
    exact ⟨by rw [List.length_append]; omega, front, rfl⟩

/-- A value that is a name with this property, with any tables. -/
def nameTakesWith (respell : List Char → Option (List Char)) (test : List String → Bool)
    (value : String) : Bool :=
  match DomainName.readWith respell value.toList with
  | .ok name => test name
  | .error _ => false

theorem nameTakesWith_iff {test : List String → Bool} {value : String} :
    nameTakesWith respell test value = true ↔
      ∃ name, DomainName.readWith respell value.toList = .ok name ∧ test name = true := by
  rw [nameTakesWith]
  cases DomainName.readWith respell value.toList <;> simp

/-- Whether a pattern contains a value, and whether it matches it. -/
def answersWith (respell : List Char → Option (List Char)) (pattern : DomainPattern) (value : String) :
    Bool × Bool :=
  (nameTakesWith respell pattern.contains value, nameTakesWith respell pattern.isMatch value)

theorem answersWith_toAscii (pattern : DomainPattern) (value : String) :
    pattern.answersWith Idna.toAscii value =
      ((Atom.domainName pattern).contains value, (Atom.domainName pattern).isMatch value) := by
  rw [answersWith, nameTakesWith, nameTakesWith, DomainName.readWith_toAscii]
  rfl

theorem answersWith_congr {value other : String} (same : SameName respell value.toList other.toList) :
    pattern.answersWith respell value = pattern.answersWith respell other := by
  have takes (test : List String → Bool) : nameTakesWith respell test value =
      nameTakesWith respell test other := by
    rw [Bool.eq_iff_iff, nameTakesWith_iff, nameTakesWith_iff]
    simp only [same _]
  rw [answersWith, answersWith, takes, takes]

/-- A pattern that was read is in normal form and is read back from its text. It contains a value that is
a name of enough labels with those of the pattern last, and matches it if there are no more in front than
the pattern leaves open. Both answers are those to the name in normal form, in any other letter case of
ASCII, with white space around it, and, once trimmed, with a dot behind it if it ends with none. This is
how atoms answer, if labels are looked up in the tables. -/
theorem domains_are_known_by_normal_names {text : List Char} (made : readWith respell text = .ok pattern) :
    pattern.IsNormal ∧ readWith respell pattern.write = .ok pattern ∧
    (∀ value : String,
      ((pattern.answersWith respell value).1 = true ↔
        ∃ name front, DomainName.readWith respell value.toList = .ok name ∧
          name = front ++ pattern.labels ∧
          pattern.free ≤ front.length) ∧
      ((pattern.answersWith respell value).2 = true ↔
        ∃ name front, DomainName.readWith respell value.toList = .ok name ∧
          name = front ++ pattern.labels ∧
          front.length = pattern.free) ∧
      (∀ name, DomainName.readWith respell value.toList = .ok name →
        pattern.answersWith respell (String.ofList (joinWith ['.'] (name.map String.toList))) =
          pattern.answersWith respell value) ∧
      (∀ other : String, (∀ c ∈ value.toList, c.toNat < 128) →
        other.toList.map Char.toLower = value.toList.map Char.toLower →
          pattern.answersWith respell other = pattern.answersWith respell value) ∧
      (∀ front back : String, (∀ c ∈ front.toList, isBlank c = true) →
        (∀ c ∈ back.toList, isBlank c = true) →
        pattern.answersWith respell (front ++ value ++ back) = pattern.answersWith respell value) ∧
      ((trim value.toList).getLast? ≠ some '.' →
        pattern.answersWith respell (trimString value ++ ".") = pattern.answersWith respell value)) ∧
    readWith Idna.toAscii = read ∧
      ∀ value, pattern.answersWith Idna.toAscii value =
        ((Atom.domainName pattern).contains value, (Atom.domainName pattern).isMatch value) := by
  refine ⟨isNormal_of_readWith made, readWith_write made, fun value => ⟨?_, ?_, ?_, ?_, ?_, ?_⟩,
    readWith_toAscii, answersWith_toAscii pattern⟩
  · simp only [answersWith, nameTakesWith_iff, contains_iff, exists_and_left]
  · simp only [answersWith, nameTakesWith_iff, isMatch_iff, exists_and_left]
  · intro name known
    apply answersWith_congr
    rw [String.toList_ofList]
    intro found
    rw [readWith_joined known, known]
  · intro other ascii letters
    exact answersWith_congr (sameName_of_letters ascii letters)
  · intro front back before after
    apply answersWith_congr
    apply SameName.of_undotted
    rw [String.toList_append, String.toList_append, trim_append_blanks after, trim_blanks_append before]
  · intro plain
    apply answersWith_congr
    rw [String.toList_append, trimString, String.toList_ofList]
    exact sameName_dotted plain

/-- A label beyond ASCII, and a name deeper than the pattern. -/
theorem domains_are_known_by_normal_names_deep :
    let respell := fun label :
    List Char => if label = "Bücher".toList then some "xn--bcher-kva".toList else none
    let pattern : DomainPattern := ⟨1, ["xn--bcher-kva", "example"]⟩
    readWith respell " *.Bücher.Example".toList = .ok pattern ∧ pattern.IsNormal ∧
      pattern.answersWith respell "a.b.Bücher.EXAMPLE" = (true, false) ∧
      pattern.answersWith respell "a.b.xn--bcher-kva.example" = (true, false) ∧
      pattern.answersWith respell ("\u2003" ++ "a.b.Bücher.EXAMPLE" ++ " ") = (true, false) := by
  intro respell pattern
  have made : readWith respell " *.Bücher.Example".toList = .ok pattern := by decide +kernel
  have answers : pattern.answersWith respell "a.b.Bücher.EXAMPLE" = (true, false) := by decide +kernel
  have known : DomainName.readWith respell "a.b.Bücher.EXAMPLE".toList =
      .ok ["a", "b", "xn--bcher-kva", "example"] := by decide +kernel
  have joined : String.ofList (joinWith ['.'] (["a", "b", "xn--bcher-kva", "example"].map String.toList)) =
      "a.b.xn--bcher-kva.example" := by decide +kernel
  obtain ⟨normal, -, names, -⟩ := domains_are_known_by_normal_names made
  obtain ⟨-, -, plain, -, spaced, -⟩ := names "a.b.Bücher.EXAMPLE"
  exact ⟨made, normal, answers, joined ▸ (plain _ known).trans answers,
    (spaced "\u2003" " " (List.all_eq_true.1 (by decide)) (List.all_eq_true.1 (by decide))).trans answers⟩

end DomainPattern

end EventRouting
