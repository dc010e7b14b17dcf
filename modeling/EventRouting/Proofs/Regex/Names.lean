import EventRouting.Proofs.Text.LetterCase
import EventRouting.Regex.Pattern
import EventRouting.Regex.Reader

set_option autoImplicit false

namespace EventRouting.Regex

open EventRouting.Unicode

/-- The characters that open or close a group or a class, or take the meaning from the next one. -/
def marks : List Char := ['\\', '[', ']', '(']

/-- The character does not matter to what stands around it. -/
abbrev IsMute (c : Char) : Prop := c ∉ marks

theorem isMute_iff {c : Char} : IsMute c ↔ c ≠ '\\' ∧ c ≠ '[' ∧ c ≠ ']' ∧ c ≠ '(' := by
  simp [IsMute, marks]

def IsMuteText (text : List Char) : Prop := ∀ c ∈ text, IsMute c

instance (text : List Char) : Decidable (IsMuteText text) := List.decidableBAll IsMute text

@[simp] theorem isMuteText_nil : IsMuteText [] := by simp [IsMuteText]

@[simp] theorem isMuteText_cons {c : Char} {text : List Char} :
    IsMuteText (c :: text) ↔ IsMute c ∧ IsMuteText text := by simp [IsMuteText]

@[simp] theorem isMuteText_append {front back : List Char} :
    IsMuteText (front ++ back) ↔ IsMuteText front ∧ IsMuteText back := by
  simp [IsMuteText, or_imp, forall_and]

theorem isMute_of_kind {c : Char} {kind : Char → Bool} (member : kind c = true)
    (clear : marks.all fun d => !kind d) : IsMute c := by
  intro special
  rw [List.all_eq_true] at clear
  simpa [member] using clear c special

/-- No mark is left out of the loose form of a name, nor is it changed. -/
theorem mem_looseName {c : Char} {name : List Char} (special : c ∈ marks) (inside : c ∈ name) :
    c ∈ looseName name := by
  have facts : c.toNat < 128 ∧ c ≠ ' ' ∧ c ≠ '_' ∧ c ≠ '-' ∧ c.toLower = c ∧
      c ∉ ['c', 'i', 'I', 's', 'S'] := by
    simp only [marks, List.mem_cons, List.not_mem_nil, or_false] at special
    rcases special with rfl | rfl | rfl | rfl <;> decide
  obtain ⟨ascii, notBlank, notLine, notHyphen, lower, other⟩ := facts
  have kept (marked : Bool) {body : List Char} (inside : c ∈ body) :
      let kept :=
        (body.filter fun c => c.toNat < 128 && c ≠ ' ' && c ≠ '_' && c ≠ '-').map Char.toLower
      c ∈ if marked && kept = ['c'] then ['i', 's', 'c'] else kept := by
    intro kept
    have survives : c ∈ kept :=
      List.mem_map.2 ⟨c, List.mem_filter.2 ⟨inside, by simp [ascii, notBlank, notLine, notHyphen]⟩,
        lower⟩
    split
    · next both =>
      rw [Bool.and_eq_true, decide_eq_true_eq] at both
      rw [both.2, List.mem_singleton] at survives
      simp [survives] at other
    · exact survives
  unfold looseName
  split
  next marked body shape =>
  refine kept marked ?_
  split at shape
  · next i s rest =>
    split at shape
    · next letters =>
      obtain ⟨-, rfl⟩ := Prod.mk.inj shape
      rcases List.mem_cons.1 inside with rfl | inside
      · simp_all
      · rcases List.mem_cons.1 inside with rfl | inside
        · simp_all
        · exact inside
    · obtain ⟨-, rfl⟩ := Prod.mk.inj shape
      exact inside
  · obtain ⟨-, rfl⟩ := Prod.mk.inj shape
    exact inside

theorem eq_of_toLower {c d : Char} (special : c ∈ marks) (lower : d.toLower = c) : d = c := by
  rcases Text.toLower_cases d with ⟨low, -, moved⟩ | ⟨-, same⟩
  · have small : c.toNat ≤ 93 := by
      simp only [marks, List.mem_cons, List.not_mem_nil, or_false] at special
      rcases special with rfl | rfl | rfl | rfl <;> decide
    rw [lower] at moved
    omega
  · exact same.symm.trans lower

/-- Nor does a mark come in. -/
theorem mem_of_mem_looseName {c : Char} {name : List Char} (special : c ∈ marks)
    (inside : c ∈ looseName name) :
    c ∈ name := by
  unfold looseName at inside
  split at inside
  next marked body shape =>
  have within : body ⊆ name := by
    split at shape
    · next i s rest =>
      split at shape
      · obtain ⟨-, rfl⟩ := Prod.mk.inj shape
        exact (List.suffix_append [i, s] rest).subset
      · obtain ⟨-, rfl⟩ := Prod.mk.inj shape
        exact List.Subset.refl _
    · obtain ⟨-, rfl⟩ := Prod.mk.inj shape
      exact List.Subset.refl _
  dsimp only at inside
  split at inside
  · simp only [marks, List.mem_cons, List.not_mem_nil, or_false] at special inside
    rcases special with rfl | rfl | rfl | rfl <;> exact absurd inside (by decide)
  · obtain ⟨d, kept, lower⟩ := List.mem_map.1 inside
    rw [← eq_of_toLower special lower]
    exact within (List.mem_filter.1 kept).1

/-- A known name has no mark in it. Its bytes are compared, which need not be read as characters first. -/
def isClear (known : String) : Bool :=
  known.toByteArray.data.toList.all fun byte => byte != 92 && byte != 91 && byte != 93 && byte != 40

theorem notMem_of_isClear {c : Char} {known : String} (special : c ∈ marks)
    (clear : isClear known = true) :
    c ∉ known.toList := by
  intro inside
  have bytes : known.toByteArray.data.toList = known.toList.flatMap String.utf8EncodeChar := by
    rw [← String.utf8Encode_toList]
    simp [List.utf8Encode]
  have same {byte : UInt8} (coded : byte ∈ String.utf8EncodeChar c) :
      (byte != 92 && byte != 91 && byte != 93 && byte != 40) = true := by
    refine List.all_eq_true.1 clear byte ?_
    rw [bytes]
    exact List.mem_flatMap.2 ⟨c, inside, coded⟩
  simp only [marks, List.mem_cons, List.not_mem_nil, or_false] at special
  rcases special with rfl | rfl | rfl | rfl
  · exact absurd (same (List.mem_singleton_self 92)) (by decide)
  · exact absurd (same (List.mem_singleton_self 91)) (by decide)
  · exact absurd (same (List.mem_singleton_self 93)) (by decide)
  · exact absurd (same (List.mem_singleton_self 40)) (by decide)

/-- What compares equal to a name without marks has none itself. -/
theorem isMuteText_of_sameName {loose : List Char} {known : String} (same : sameName loose known = true)
    (clear : isClear known = true) : IsMuteText loose := by
  intro c inside special
  rw [sameName, beq_iff_eq] at same
  rw [same] at inside
  exact notMem_of_isClear special clear (mem_of_mem_looseName special inside)

theorem properties_clear : properties.all fun known => isClear known.name && isClear known.shortName := by
  decide +kernel

theorem categoryNames_clear : categoryNames.all fun known => isClear known.2.1 && isClear known.2.2 := by
  decide +kernel

theorem categoryGroups_clear : categoryGroups.all fun known => isClear known.1 && isClear known.2.1 := by
  decide +kernel

theorem scripts_clear : scripts.all fun known => isClear known.1 && isClear known.2.1 := by
  decide +kernel

theorem categoryAliases_clear : categoryAliases.all fun known => isClear known.1 := by
  decide +kernel

theorem scriptAliases_clear : scriptAliases.all fun known => isClear known.1 := by
  decide +kernel

variable {loose name property value : List Char}

/-- A name that is found in a table under one of two known names. -/
theorem isMuteText_of_find? {Entry : Type} {table : List Entry} {first second : Entry → String}
    (clear : table.all fun known => isClear (first known) && isClear (second known))
    (found : (table.find? fun known => sameName loose (first known) ||
      sameName loose (second known)).isSome) :
    IsMuteText loose := by
  obtain ⟨known, found⟩ := Option.isSome_iff_exists.1 found
  have same := List.find?_some found
  have both := List.all_eq_true.1 clear known (List.mem_of_find?_eq_some found)
  rw [Bool.and_eq_true] at both
  rcases Bool.or_eq_true_iff.1 same with same | same
  · exact isMuteText_of_sameName same both.1
  · exact isMuteText_of_sameName same both.2

theorem isMuteText_of_alias {table : List (String × String)}
    (clear : table.all fun known => isClear known.1)
    (found : (table.find? fun known => sameName loose known.1).isSome) : IsMuteText loose := by
  refine @isMuteText_of_find? loose _ table Prod.fst Prod.fst (by simpa using clear) (by simpa using found)

theorem isMuteText_of_propertyNamed (found : (propertyNamed loose).isSome) : IsMuteText loose := by
  rw [propertyNamed, Option.isSome_map] at found
  exact isMuteText_of_find? properties_clear found

theorem isMuteText_of_categoryNamed (found : (categoryNamed loose).isSome) : IsMuteText loose := by
  unfold categoryNamed at found
  cases other : categoryAliases.find? (sameName loose ·.1) with
  | some known => exact isMuteText_of_alias categoryAliases_clear (by simp [other])
  | none =>
    rw [other] at found
    dsimp only at found
    split at found
    · next same => exact isMuteText_of_sameName same (by decide +kernel)
    split at found
    · next same => exact isMuteText_of_sameName same (by decide +kernel)
    split at found
    · next same => exact isMuteText_of_sameName same (by decide +kernel)
    split at found
    · next known named => exact isMuteText_of_find? categoryNames_clear (by simp [named])
    · rw [Option.isSome_map] at found
      exact isMuteText_of_find? categoryGroups_clear found

theorem isMuteText_of_scriptName? (found : (scriptName? loose).isSome) : IsMuteText loose := by
  unfold scriptName? at found
  split at found
  · next known named => exact isMuteText_of_find? scripts_clear (by simp [named])
  · rw [Option.isSome_map] at found
    exact isMuteText_of_alias scriptAliases_clear found

theorem isMuteText_of_scriptNamed (found : (scriptNamed loose).isSome) : IsMuteText loose := by
  obtain ⟨set, found⟩ := Option.isSome_iff_exists.1 found
  rw [scriptNamed, Option.bind_eq_bind, Option.bind_eq_some_iff] at found
  obtain ⟨long, named, -⟩ := found
  exact isMuteText_of_scriptName? (by simp [named])

theorem isMuteText_of_scriptExtensionNamed (found : (scriptExtensionNamed loose).isSome) :
    IsMuteText loose := by
  obtain ⟨set, found⟩ := Option.isSome_iff_exists.1 found
  rw [scriptExtensionNamed, Option.bind_eq_bind, Option.bind_eq_some_iff] at found
  obtain ⟨long, named, -⟩ := found
  exact isMuteText_of_scriptName? (by simp [named])

theorem isMuteText_of_looseName (mute : IsMuteText (looseName name)) : IsMuteText name :=
  fun c inside special => mute c (mem_looseName special inside) special

/-- A name that stands for a set has no mark in it. -/
theorem isMuteText_of_setNamed (found : (setNamed name).isSome) : IsMuteText name := by
  apply isMuteText_of_looseName
  unfold setNamed at found
  dsimp only at found
  simp only [Option.orElse_eq_orElse, Option.orElse_eq_or, Option.isSome_or, Bool.or_eq_true] at found
  rcases found with found | found | found
  · split at found
    · contradiction
    · exact isMuteText_of_propertyNamed found
  · exact isMuteText_of_categoryNamed found
  · exact isMuteText_of_scriptNamed found

theorem isMuteText_of_setValued (found : (setValued property value).isSome) :
    IsMuteText property ∧ IsMuteText value := by
  unfold setValued at found
  dsimp only at found
  have clear : ["gc", "General_Category", "sc", "Script", "scx", "Script_Extensions"].all isClear := by
    decide +kernel
  have mute {known : String}
      (listed : known ∈ ["gc", "General_Category", "sc", "Script", "scx", "Script_Extensions"])
      (same : sameName (looseName property) known = true) : IsMuteText property :=
    isMuteText_of_looseName (isMuteText_of_sameName same (List.all_eq_true.1 clear known listed))
  split at found
  · next same =>
    refine ⟨?_, isMuteText_of_looseName (isMuteText_of_categoryNamed found)⟩
    rcases Bool.or_eq_true_iff.1 same with same | same <;> exact mute (by simp) same
  split at found
  · next same =>
    refine ⟨?_, isMuteText_of_looseName (isMuteText_of_scriptNamed found)⟩
    rcases Bool.or_eq_true_iff.1 same with same | same <;> exact mute (by simp) same
  split at found
  · next same =>
    refine ⟨?_, isMuteText_of_looseName (isMuteText_of_scriptExtensionNamed found)⟩
    rcases Bool.or_eq_true_iff.1 same with same | same <;> exact mute (by simp) same
  · contradiction

theorem eq_append_of_cutAt {mark text front back : List Char} (cut : cutAt mark text = some (front, back)) :
    text = front ++ mark ++ back := by
  induction text generalizing front with
  | nil => contradiction
  | cons c rest ih =>
    rw [cutAt] at cut
    split at cut
    · next starts =>
      obtain ⟨rfl, rfl⟩ := Prod.mk.inj (Option.some.inj cut)
      rw [List.nil_append]
      exact (List.prefix_iff_eq_append.1 (List.isPrefixOf_iff_prefix.1 starts)).symm
    · rw [Option.map_eq_some_iff] at cut
      obtain ⟨⟨head, tail⟩, cut, same⟩ := cut
      obtain ⟨rfl, rfl⟩ := Prod.mk.inj same
      rw [ih cut]
      rfl

/-- What stands in the braces of a known set has no mark in it. -/
theorem isMuteText_of_unicodeName (found : (unicodeName name).set?.isSome) : IsMuteText name := by
  unfold unicodeName at found
  split at found
  · next property value cut =>
    obtain ⟨muteProperty, muteValue⟩ := isMuteText_of_setValued found
    have separated {mark : List Char} (plain : IsMuteText mark)
      (cut : cutAt mark name = some (property, value)) :
        IsMuteText name := by
      rw [eq_append_of_cutAt cut, isMuteText_append, isMuteText_append]
      exact ⟨⟨muteProperty, plain⟩, muteValue⟩
    simp only [Option.orElse_eq_orElse, Option.orElse_eq_or, Option.or_eq_some_iff] at cut
    rcases cut with cut | ⟨-, cut | ⟨-, cut⟩⟩
    · exact separated (by decide) cut
    · exact separated (by decide) cut
    · exact separated (by decide) cut
  · exact isMuteText_of_setNamed found

/-- No run of the table has one of the characters in it. -/
def avoids (chars : List Char) (table : RunTable) : Bool :=
  table.runs.toList.all fun run => chars.all fun c => !run.contains c.toNat

theorem avoids_read (chars : List Char) (text : String) :
    avoids chars (.read text) = (words text).all fun word => chars.all fun c =>
      !(Run.read word).contains c.toNat := by
  simp [avoids, RunTable.read, Function.comp_def]

theorem contains_eq_false {chars : List Char} {table : RunTable} {c : Char}
    (avoided : avoids chars table = true) (listed : c ∈ chars) : table.contains c = false := by
  rw [Bool.eq_false_iff]
  intro found
  rw [RunTable.contains, RunTable.containsPoint] at found
  obtain ⟨run, placed, inside⟩ :=
    Option.map_eq_some_iff.1 (Option.getD_eq_iff.1 found |>.resolve_right (by simp))
  have outside := List.all_eq_true.1 (List.all_eq_true.1 avoided run (Array.mem_toList_iff.2
    (Array.mem_of_getElem? placed))) c listed
  simp [inside] at outside

/-- The tables that say which characters may stand in the name of a group. -/
def nameTables : List RunTable :=
  Property.alphabetic.added :: Property.alphabetic.categories ++
    [decimalNumberTable, letterNumberTable, otherNumberTable]

theorem mem_nameTables {table : RunTable} : table ∈ nameTables ↔
    (table = Property.alphabetic.added ∨ table ∈ Property.alphabetic.categories) ∨
      table ∈ [decimalNumberTable, letterNumberTable, otherNumberTable] := by
  rw [nameTables, List.mem_append, List.mem_cons]

set_option maxRecDepth 100000 in
theorem nameTables_avoid : nameTables.all (avoids ['\\', '(']) = true := by
  unfold nameTables Property.alphabetic uppercaseLetterTable lowercaseLetterTable titlecaseLetterTable
    modifierLetterTable otherLetterTable spacingMarkTable letterNumberTable decimalNumberTable
    otherNumberTable
  simp only [List.cons_append, List.nil_append, List.all_cons, List.all_nil, avoids_read, words]
  repeat rw [String.toList_ofList]
  decide +kernel

/-- A character with a category is in the table of the category. -/
theorem table_of_category {c : Char} {kind : Category} (known : category c = kind)
    (assigned : kind ≠ .unassigned) :
    ∃ table, (kind, table) ∈ categoryTables ∧ table.contains c = true := by
  rw [category] at known
  cases found : categoryTables.find? (·.2.contains c) with
  | none =>
    rw [found] at known
    exact absurd known.symm assigned
  | some entry =>
    obtain ⟨kind', table⟩ := entry
    have listed := List.mem_of_find?_eq_some found
    have inside := List.find?_some found
    rw [found] at known
    obtain rfl : kind' = kind := known
    exact ⟨table, listed, inside⟩

theorem isNumber_iff {kind : Category} :
    kind.isNumber = true ↔ kind = .decimalNumber ∨ kind = .letterNumber ∨ kind = .otherNumber := by
  cases kind <;> decide

/-- The character is in one of the tables of numbers. -/
theorem table_of_isNumeric {c : Char} (numeric : isNumeric c = true) :
    ∃ table ∈ [decimalNumberTable, letterNumberTable, otherNumberTable], table.contains c = true := by
  rcases isNumber_iff.1 numeric with known | known | known
  · obtain ⟨table, entry, contains⟩ := table_of_category known (by decide)
    simp only [categoryTables, List.mem_cons, Prod.mk.injEq, List.not_mem_nil, reduceCtorEq,
      false_and, false_or, or_false, true_and] at entry
    rw [entry] at contains
    exact ⟨decimalNumberTable, by simp only [List.mem_cons, true_or], contains⟩
  · obtain ⟨table, entry, contains⟩ := table_of_category known (by decide)
    simp only [categoryTables, List.mem_cons, Prod.mk.injEq, List.not_mem_nil, reduceCtorEq,
      false_and, false_or, or_false, true_and] at entry
    rw [entry] at contains
    exact ⟨letterNumberTable, by simp only [List.mem_cons, true_or, or_true], contains⟩
  · obtain ⟨table, entry, contains⟩ := table_of_category known (by decide)
    simp only [categoryTables, List.mem_cons, Prod.mk.injEq, List.not_mem_nil, reduceCtorEq,
      false_and, false_or, or_false, true_and] at entry
    rw [entry] at contains
    exact ⟨otherNumberTable, by simp only [List.mem_cons, true_or, or_true], contains⟩

/-- No backslash and no parenthesis is part of a name. -/
theorem isNamePart_ne {c : Char} (part : isNamePart c = true) : c ≠ '\\' ∧ c ≠ '(' := by
  suffices c ∉ ['\\', '('] by simpa using this
  intro listed
  have outside {table : RunTable} (inside : table ∈ nameTables) : table.contains c = false :=
    contains_eq_false (List.all_eq_true.1 nameTables_avoid table inside) listed
  have notStart : isNameStart c = false := by
    have categories : Property.alphabetic.categories.any (·.contains c) = false := by
      rw [List.any_eq_false]
      intro table inside
      rw [outside (mem_nameTables.2 (.inl (.inr inside)))]
      exact Bool.false_ne_true
    have added : Property.alphabetic.added.contains c = false :=
      outside (mem_nameTables.2 (.inl (.inl rfl)))
    have notLine : c ≠ '_' := by
      rintro rfl
      exact absurd listed (by decide)
    rw [isNameStart, Property.contains, added, categories]
    simp only [notLine, decide_false, Bool.false_and, Bool.or_false]
  have notNumeric : isNumeric c = false := by
    rw [Bool.eq_false_iff]
    intro numeric
    obtain ⟨table, inside, contains⟩ := table_of_isNumeric numeric
    rw [outside (mem_nameTables.2 (.inr inside))] at contains
    exact Bool.false_ne_true contains
  simp only [isNamePart, notStart, notNumeric, Bool.or_false] at part
  simp only [List.mem_cons, List.not_mem_nil, or_false] at listed
  rcases listed with rfl | rfl <;> exact absurd part (by decide)

end EventRouting.Regex
