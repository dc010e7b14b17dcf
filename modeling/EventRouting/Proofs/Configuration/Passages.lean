import EventRouting.Proofs.Configuration.Headers
import EventRouting.Proofs.Text.Lines

set_option autoImplicit false

namespace EventRouting.Configuration

open Text

/-- A line that is not blank and no comment. -/
def isSaying : List Char → Bool
  | [] | '#' :: _ => false
  | _ => true

def isHeader : List Char → Bool
  | '[' :: _ => true
  | _ => false

/-- The lines of a text that are not blank and no comments, without the blanks around them. -/
def sayings (text : String) : List (List Char) :=
  ((splitAt '\n' text.toList).map trim).filter isSaying

/-- A header, after its opening bracket, and the rules below it. -/
structure Passage where
  header : List Char
  rules : List (List Char)

/-- The rules before the next header. -/
def leading (sayings : List (List Char)) : List (List Char) := sayings.takeWhile (!isHeader ·)

def passages : List (List Char) → List Passage
  | [] => []
  | ('[' :: header) :: rest => ⟨header, leading rest⟩ :: passages rest
  | _ :: rest => passages rest

theorem isHeader_iff {line : List Char} : isHeader line = true ↔ ∃ header, line = '[' :: header := by
  unfold isHeader
  split <;> simp_all

theorem leading_cons {line : List Char} (plain : isHeader line = false) (rest : List (List Char)) :
    leading (line :: rest) = line :: leading rest :=
  List.takeWhile_cons_of_pos (by rw [plain]; rfl)

theorem passages_cons {line : List Char} (plain : isHeader line = false) (rest : List (List Char)) :
    passages (line :: rest) = passages rest := by
  rw [passages]
  rintro header rfl
  contradiction

/-- What a section yields with some rules: a session for every event when there are none, and otherwise
one for what some rule takes, if any of them can be read. -/
def plansFor (source destination : String) (rules : List String) : List SessionPlan :=
  match rules with
  | [] => [⟨source, destination, none⟩]
  | rules => ((Expression.junction? .or (rules.filterMap RuleText.read?)).map fun rule =>
      ⟨source, destination, some rule⟩).toList

/-- What a section under way yields when it ends after some more rules. -/
def Section.plans : Section → List (List Char) → List SessionPlan
  | active _ source destination rules, more =>
    plansFor source destination (rules.reverse.map Prod.snd ++ more.map String.ofList)
  | _, _ => []

/-- The plans of a passage do not depend on the number of its line. -/
def Passage.plans (passage : Passage) : List SessionPlan :=
  (readHeader 0 passage.header).1.plans passage.rules

theorem readRules_eq (rules : List (Nat × String)) :
    (readRules rules).1 = (rules.map Prod.snd).filterMap RuleText.read? := by
  induction rules with
  | nil => rfl
  | cons rule rest ih =>
    rw [List.map_cons, List.filterMap_cons, ← ih, readRules]
    cases RuleText.read? rule.2 <;> rfl

theorem plansFor_of_ne_nil (source destination : String) {rules : List String} (some : rules ≠ []) :
    plansFor source destination rules =
      ((Expression.junction? .or (rules.filterMap RuleText.read?)).map fun rule =>
        ⟨source, destination, .some rule⟩).toList := by
  cases rules with
  | nil => exact absurd rfl some
  | cons rule rules => rfl

theorem reverse_plansFor (source destination : String) (rules : List String) :
    (plansFor source destination rules).reverse = plansFor source destination rules := by
  by_cases none : rules = []
  · rw [none]
    rfl
  · rw [plansFor_of_ne_nil source destination none]
    cases Expression.junction? .or (rules.filterMap RuleText.read?) <;> rfl

theorem Section.reverse_plans (current : Section) (more : List (List Char)) :
    (current.plans more).reverse = current.plans more := by
  cases current with
  | outside | disabled => rfl
  | active line source destination rules => exact reverse_plansFor source destination _

theorem closeSection_eq (current : Section) : (closeSection current).1 = current.plans [] := by
  cases current with
  | outside | disabled => rfl
  | active line source destination rules =>
    cases rules with
    | nil => rfl
    | cons rule rules =>
      rw [Section.plans, plansFor_of_ne_nil _ _ (by simp), List.map_nil, List.append_nil, ← readRules_eq]
      unfold closeSection
      dsimp only
      cases Expression.junction? .or (readRules (rule :: rules).reverse).1 <;> rfl

theorem plans_readHeader (line : Nat) (header : List Char) (rules : List (List Char)) :
    (readHeader line header).1.plans rules = (Passage.mk header rules).plans := by
  rw [Passage.plans]
  rcases readHeader_section line header with
    ⟨source, destination, enabled, reads⟩ | ⟨none, reads⟩ <;>
    rcases readHeader_section 0 header with
      ⟨source', destination', enabled', reads'⟩ | ⟨none', reads'⟩
  · obtain ⟨rfl, rfl⟩ := enabled.unique enabled'
    rw [reads, reads']
    rfl
  · exact absurd enabled (none' _ _)
  · exact absurd enabled' (none _ _)
  · rcases reads with reads | reads <;> rcases reads' with reads' | reads' <;> rw [reads, reads'] <;> rfl

section ReadLine

variable (progress : Progress) (number : Nat) {line : String}

theorem readLine_skip (silent : isSaying (trim line.toList) = false) :
    progress.readLine number line = progress := by
  rw [Progress.readLine]
  unfold isSaying at silent
  split at silent
  · next blank => rw [blank]
  · next comment =>
    rw [comment]
    rfl
  · contradiction

theorem readLine_header {header : List Char} (shape : trim line.toList = '[' :: header) :
    (progress.readLine number line).plans.reverse =
        progress.plans.reverse ++ progress.current.plans [] ∧
      (progress.readLine number line).current = (readHeader number header).1 := by
  rw [Progress.readLine, shape]
  refine ⟨?_, rfl⟩
  change ((closeSection progress.current).1 ++ progress.plans).reverse = _
  rw [List.reverse_append, closeSection_eq, Section.reverse_plans]

theorem readLine_rule (speaks : isSaying (trim line.toList) = true)
    (plain : isHeader (trim line.toList) = false) :
    (progress.readLine number line).plans = progress.plans ∧ ∀ more,
      (progress.readLine number line).current.plans more =
        progress.current.plans (trim line.toList :: more) := by
  rw [Progress.readLine]
  split
  · next shape => simp [shape, isSaying] at speaks
  · next shape => simp [shape, isSaying] at speaks
  · next shape => simp [shape, isHeader] at plain
  · split
    · next first source destination rules under =>
      refine ⟨rfl, fun more => ?_⟩
      rw [under, Section.plans, Section.plans, List.reverse_cons, List.map_append, List.append_assoc]
      rfl
    · next under =>
      rw [under]
      exact ⟨rfl, fun more => rfl⟩
    · next under =>
      refine ⟨rfl, fun more => ?_⟩
      rw [under]
      rfl

end ReadLine

theorem plans_foldl (lines : List (String × Nat)) (progress : Progress) :
    (lines.foldl (fun progress line => progress.readLine line.2 line.1) progress).close.plans.reverse =
      let sayings := (lines.map fun line => trim line.1.toList).filter isSaying
      progress.plans.reverse ++ progress.current.plans (leading sayings) ++
        (passages sayings).flatMap Passage.plans := by
  induction lines generalizing progress with
  | nil =>
    change ((closeSection progress.current).1 ++ progress.plans).reverse = _
    rw [List.reverse_append, closeSection_eq, Section.reverse_plans]
    exact (List.append_nil _).symm
  | cons line rest ih =>
    rw [List.foldl_cons, ih, List.map_cons]
    dsimp only
    generalize rest.map (fun line => trim line.1.toList) = others
    cases speaks : isSaying (trim line.1.toList) with
    | false => rw [List.filter_cons_of_neg (by simp [speaks]), readLine_skip progress line.2 speaks]
    | true =>
      rw [List.filter_cons_of_pos speaks]
      cases header : isHeader (trim line.1.toList) with
      | false =>
        obtain ⟨plans, current⟩ := readLine_rule progress line.2 speaks header
        rw [plans, current, leading_cons header, passages_cons header]
      | true =>
        obtain ⟨header, shape⟩ := isHeader_iff.1 header
        obtain ⟨plans, current⟩ := readLine_header progress line.2 shape
        rw [plans, current, plans_readHeader, shape, passages, List.flatMap_cons, ← List.append_assoc]
        rfl

/-- A text yields what its passages yield, in their order. -/
theorem ofSections_outcome (text : String) :
    (ofSections text.toUTF8).outcome = .ok ((passages (sayings text)).flatMap Passage.plans) := by
  rw [ofSections, decodeLines_toUTF8]
  change Except.ok (readLines (lines text)).close.plans.reverse = _
  have numbered : ((lines text).zipIdx 1).map (fun line => trim line.1.toList) =
      (lines text).map fun line => trim line.toList := by
    rw [← Function.comp_def (fun line : String => trim line.toList) Prod.fst, ← List.map_map,
      List.zipIdx_map_fst]
  rw [readLines, plans_foldl, numbered, filter_map_trim_lines rfl]
  rfl

theorem sayings_append (before after : String) :
    sayings (before ++ "\n" ++ after) = sayings before ++ sayings after := by
  have mark : (before ++ "\n" ++ after).toList = before.toList ++ '\n' :: after.toList := by simp
  rw [sayings, mark, splitAt_append_mark, List.map_append, List.filter_append]
  rfl

section Append

variable {after : List (List Char)} (header : ∀ line ∈ after.head?, isHeader line = true)
include header

theorem leading_append (before : List (List Char)) : leading (before ++ after) = leading before := by
  induction before with
  | nil =>
    cases after with
    | nil => rfl
    | cons line rest => exact List.takeWhile_cons_of_neg (by simp [header line rfl])
  | cons line rest ih =>
    rw [List.cons_append]
    cases shape : isHeader line with
    | false => rw [leading_cons shape, leading_cons shape, ih]
    | true => rw [leading, leading, List.takeWhile_cons_of_neg (by simp [shape]),
        List.takeWhile_cons_of_neg (by simp [shape])]

/-- What stands before a header has no effect on what follows it, nor that on what stands before. -/
theorem passages_append (before : List (List Char)) :
    passages (before ++ after) = passages before ++ passages after := by
  induction before with
  | nil => rfl
  | cons line rest ih =>
    rw [List.cons_append]
    cases shape : isHeader line with
    | false => rw [passages_cons shape, passages_cons shape, ih]
    | true =>
      obtain ⟨header, rfl⟩ := isHeader_iff.1 shape
      rw [passages, passages, leading_append ‹_›, ih, List.cons_append]

end Append

end EventRouting.Configuration
