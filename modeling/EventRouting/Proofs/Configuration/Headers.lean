import Mathlib.Data.List.Induction
import EventRouting.Configuration.Sections

set_option autoImplicit false

namespace EventRouting

namespace Configuration

open Text

/-- A part of a header gives a parameter its value: a name and a value around the first equals sign, or a
name alone. Names are taken in lower case, and blanks around either do not count. -/
inductive Gives (part : List Char) : String → String → Prop where
  | value {name value : List Char} (shape : trim part = name ++ '=' :: value) (first : '=' ∉ name) :
    Gives part (String.ofList (lowered (trim name))) (String.ofList (trim value))
  | flag (bare : '=' ∉ trim part) : Gives part (String.ofList (lowered (trim part))) ""

theorem gives_iff {part : List Char} {name value : String} :
    Gives part name value ↔ readParameter (trim part) = (name, value) := by
  rw [readParameter]
  constructor
  · rintro (⟨shape, first⟩ | bare)
    · rw [splitOnce_eq_some_iff.2 ⟨shape, first⟩]
    · rw [splitOnce_eq_none_iff.2 bare]
  · intro read
    split at read
    · next front back halves =>
      obtain ⟨rfl, rfl⟩ := Prod.mk.inj read
      obtain ⟨shape, first⟩ := splitOnce_eq_some_iff.1 halves
      exact .value shape first
    · next bare =>
      obtain ⟨rfl, rfl⟩ := Prod.mk.inj read
      exact .flag (splitOnce_eq_none_iff.1 bare)

/-- The last of the parts that gives a parameter some value. -/
def GivesLast (parts : List (List Char)) (name value : String) : Prop :=
  ∃ before part after, parts = before ++ part :: after ∧ Gives part name value ∧
    ∀ other ∈ after, ∀ value, ¬ Gives other name value

/-- The parameters of a header stand between commas. -/
def Parameter (content : List Char) (name value : String) : Prop :=
  GivesLast (splitAt ',' content) name value

/-- False in one of its spellings, in any letter case. -/
def Off (value : String) : Prop :=
  ∃ word ∈ ["false", "0", "f", "no"], sameIgnoringCase value word = true

/-- A header, after its opening bracket, that enables a section from one room to the other. -/
structure Enabled (header : List Char) (source destination : String) : Prop where
  closed : ∃ content rest, header = content ++ ']' :: rest ∧ ']' ∉ content ∧
    Parameter content "src" source ∧ Parameter content "dst" destination ∧
    ∀ value, Parameter content "disable" value → Off value
  source : source ≠ ""
  destination : destination ≠ ""

theorem isOff_iff {value : String} : isOff value = true ↔ Off value := by
  have plain : ∀ word ∈ ["false", "0", "f", "no"], lowered word.toList = word.toList := by decide
  have same {word : String} (inside : word ∈ ["false", "0", "f", "no"]) :
      sameIgnoringCase value word = true ↔ String.ofList (lowered value.toList) = word := by
    rw [sameIgnoringCase, beq_iff_eq, plain word inside, ← String.toList_inj, String.toList_ofList]
  rw [isOff, List.contains_iff_mem, Off]
  constructor
  · exact fun inside => ⟨_, inside, (same inside).2 rfl⟩
  · rintro ⟨word, inside, equal⟩
    rwa [(same inside).1 equal]

theorem Gives.unique {part : List Char} {name value other : String} (first : Gives part name value)
    (second : Gives part name other) : value = other :=
  (Prod.mk.inj ((gives_iff.1 first).symm.trans (gives_iff.1 second))).2

theorem givesLast_append_singleton {parts : List (List Char)} {part : List Char} {name value : String} :
    GivesLast (parts ++ [part]) name value ↔
      Gives part name value ∨ (∀ value, ¬ Gives part name value) ∧ GivesLast parts name value := by
  constructor
  · rintro ⟨before, found, after, shape, gives, last⟩
    rcases List.eq_nil_or_concat after with rfl | ⟨front, final, rfl⟩
    · obtain ⟨-, same⟩ := List.append_inj' shape rfl
      exact Or.inl ((List.singleton_inj.1 same) ▸ gives)
    · rw [List.concat_eq_append] at shape last
      rw [← List.cons_append, ← List.append_assoc] at shape
      obtain ⟨earlier, same⟩ := List.append_inj' shape rfl
      obtain rfl := List.singleton_inj.1 same
      exact Or.inr ⟨last part (by simp), before, found, front, earlier, gives,
        fun other inside => last other (List.mem_append_left _ inside)⟩
  · rintro (gives | ⟨silent, before, found, after, rfl, gives, last⟩)
    · exact ⟨parts, part, [], rfl, gives, by simp⟩
    · refine ⟨before, found, after ++ [part], by simp, gives, ?_⟩
      rw [List.forall_mem_append, List.forall_mem_singleton]
      exact ⟨last, silent⟩

theorem lookup_readParameters {content : List Char} {name value : String} (named : name ≠ "") :
    (readParameters content).lookup name = some value ↔ Parameter content name value := by
  rw [readParameters, Parameter]
  induction splitAt ',' content using List.reverseRecOn with
  | nil => simp [GivesLast]
  | append_singleton parts part ih =>
    rw [givesLast_append_singleton, List.map_append, List.filter_append, List.reverse_append,
      List.map_append]
    by_cases blank : trim part = []
    · have silent : ∀ value, ¬ Gives part name value := by
        intro value gives
        rw [gives_iff, blank] at gives
        exact named (Prod.mk.inj gives).1.symm
      simpa [blank, silent] using ih
    · have kept : ([part].map trim).filter (!·.isEmpty) = [trim part] := by simp [blank]
      rcases read : readParameter (trim part) with ⟨key, given⟩
      rw [kept, List.reverse_singleton, List.map_singleton, List.singleton_append, read, List.lookup_cons]
      by_cases same : name = key
      · subst same
        have gives : Gives part name given := gives_iff.2 read
        rw [beq_self_eq_true]
        constructor
        · exact fun found => Or.inl (Option.some.inj found ▸ gives)
        · rintro (other | ⟨silent, -⟩)
          · exact congrArg some (gives.unique other)
          · exact absurd gives (silent given)
      · have silent : ∀ value, ¬ Gives part name value := fun value gives =>
          same (Prod.mk.inj (read.symm.trans (gives_iff.1 gives))).1.symm
        rw [beq_false_of_ne same]
        simpa only [silent, not_false_eq_true, implies_true, true_and, false_or] using ih

theorem getD_lookup_ne_empty {content : List Char} {name value : String} (named : name ≠ "")
    (given : value ≠ "") :
    ((readParameters content).lookup name).getD "" = value ↔ Parameter content name value := by
  rw [← lookup_readParameters named]
  cases (readParameters content).lookup name with
  | none => simpa using given.symm
  | some other => simp

/-- Disabled is a header that gives the parameter any value but one for false. -/
theorem any_lookup_disable (content : List Char) :
    ((readParameters content).lookup "disable").any (!isOff ·) = false ↔
      ∀ value, Parameter content "disable" value → Off value := by
  simp only [← lookup_readParameters (show "disable" ≠ "" by decide), ← isOff_iff]
  cases (readParameters content).lookup "disable" with
  | none => simp
  | some value => simp

theorem enabled_iff {header content rest : List Char} {source destination : String}
    (halves : splitOnce ']' header = some (content, rest)) :
    Enabled header source destination ↔
      ((readParameters content).lookup "disable").any (!isOff ·) = false ∧
      ((readParameters content).lookup "src").getD "" = source ∧ source ≠ "" ∧
      ((readParameters content).lookup "dst").getD "" = destination ∧ destination ≠ "" := by
  rw [any_lookup_disable]
  constructor
  · rintro ⟨⟨other, after, shape, first, src, dst, on⟩, source, destination⟩
    obtain ⟨rfl, rfl⟩ := Prod.mk.inj
      (Option.some.inj (halves.symm.trans (splitOnce_eq_some_iff.2 ⟨shape, first⟩)))
    exact ⟨on, (getD_lookup_ne_empty (by decide) source).2 src, source,
      (getD_lookup_ne_empty (by decide) destination).2 dst, destination⟩
  · rintro ⟨on, src, source, dst, destination⟩
    obtain ⟨shape, first⟩ := splitOnce_eq_some_iff.1 halves
    exact ⟨⟨content, rest, shape, first, (getD_lookup_ne_empty (by decide) source).1 src,
      (getD_lookup_ne_empty (by decide) destination).1 dst, on⟩, source, destination⟩

theorem Enabled.unique {header : List Char} {source destination source' destination' : String}
    (first : Enabled header source destination) (second : Enabled header source' destination') :
    source = source' ∧ destination = destination' := by
  obtain ⟨content, rest, shape, clean, -⟩ := first.closed
  have halves := splitOnce_eq_some_iff.2 ⟨shape, clean⟩
  obtain ⟨-, src, -, dst, -⟩ := (enabled_iff halves).1 first
  obtain ⟨-, src', -, dst', -⟩ := (enabled_iff halves).1 second
  exact ⟨src.symm.trans src', dst.symm.trans dst'⟩

/-- A header begins a section under way exactly if it enables one, and then between the rooms it gives. -/
theorem readHeader_section (line : Nat) (header : List Char) :
    (∃ source destination, Enabled header source destination ∧
      (readHeader line header).1 = .active line source destination []) ∨
    (∀ source destination, ¬ Enabled header source destination) ∧
      ((readHeader line header).1 = .outside ∨ (readHeader line header).1 = .disabled) := by
  rw [readHeader]
  split
  · next unclosed =>
    refine Or.inr ⟨?_, Or.inl rfl⟩
    rintro source destination ⟨⟨content, rest, rfl, -⟩, -, -⟩
    exact splitOnce_eq_none_iff.1 unclosed (by simp)
  · next content rest halves =>
    dsimp only
    split
    · next disabled =>
      refine Or.inr ⟨fun source destination enabled => ?_, Or.inr rfl⟩
      exact absurd (disabled.symm.trans ((enabled_iff halves).1 enabled).1) (by decide)
    · next on =>
      split
      · next missing =>
        refine Or.inr ⟨fun source destination enabled => ?_, Or.inl rfl⟩
        obtain ⟨-, rfl, source, rfl, destination⟩ := (enabled_iff halves).1 enabled
        simp [source, destination] at missing
      · next given =>
        rw [Bool.or_eq_true, decide_eq_true_eq, decide_eq_true_eq, not_or] at given
        exact Or.inl ⟨_, _, (enabled_iff halves).2
          ⟨Bool.not_eq_true _ ▸ on, rfl, given.1, rfl, given.2⟩, rfl⟩

end Configuration

end EventRouting
