import EventRouting.Regex.Pattern

set_option autoImplicit false

namespace EventRouting.Regex

/-- A part of an expression, as it is met from left to right. -/
inductive Part where
  | flags (changes : FlagChanges)
  | groupName (name : List Char)
  | unicode (name : UnicodeName)
  | brackets (set : ClassSet)

/-- The parts of a tree in the order of the text; a group's name comes before its flags. -/
def Tree.parts : Tree → List Part
  | .flags changes => [.flags changes]
  | .unicode _ name => [.unicode name]
  | .bracketed _ set => [.brackets set]
  | .repetition _ _ inner => inner.parts
  | .group name changes inner => name.toList.map .groupName ++ .flags changes :: inner.parts
  | .alternation branches => allParts branches
  | .sequence items => allParts items
  | _ => []
where
  allParts : List Tree → List Part
    | [] => []
    | item :: rest => item.parts ++ allParts rest

/-- The innermost members of a class in the order of the text, and each class within it after its own
members. -/
def ClassSet.members : ClassSet → List ClassSet
  | .empty => []
  | .bracketed negated inner => inner.members ++ [.bracketed negated inner]
  | .union items => allMembers items
  | .operation _ left right => left.members ++ right.members
  | set => [set]
where
  allMembers : List ClassSet → List ClassSet
    | [] => []
    | item :: rest => item.members ++ allMembers rest

/-- The names of the groups. -/
def Tree.groupNames (tree : Tree) : List (List Char) :=
  tree.parts.filterMap fun
    | .groupName name => some name
    | _ => none

/-- The classes in brackets that stand outside other classes. -/
def Tree.classes (tree : Tree) : List ClassSet :=
  tree.parts.filterMap fun
    | .brackets set => some set
    | _ => none

theorem Tree.mem_groupNames {tree : Tree} {name : List Char} :
    name ∈ tree.groupNames ↔ .groupName name ∈ tree.parts := by
  simp only [Tree.groupNames, List.mem_filterMap]
  constructor
  · rintro ⟨part, inside, same⟩
    split at same
    · obtain rfl := Option.some.inj same
      exact inside
    · contradiction
  · exact fun inside => ⟨_, inside, rfl⟩

theorem Tree.mem_classes {tree : Tree} {set : ClassSet} :
    set ∈ tree.classes ↔ .brackets set ∈ tree.parts := by
  simp only [Tree.classes, List.mem_filterMap]
  constructor
  · rintro ⟨part, inside, same⟩
    split at same
    · obtain rfl := Option.some.inj same
      exact inside
    · contradiction
  · exact fun inside => ⟨_, inside, rfl⟩

theorem Tree.allParts_eq (items : List Tree) : Tree.parts.allParts items = items.flatMap Tree.parts := by
  induction items with
  | nil => rfl
  | cons item rest ih => rw [Tree.parts.allParts, ih, List.flatMap_cons]

theorem ClassSet.allMembers_eq (items : List ClassSet) :
    ClassSet.members.allMembers items = items.flatMap ClassSet.members := by
  induction items with
  | nil => rfl
  | cons item rest ih => rw [ClassSet.members.allMembers, ih, List.flatMap_cons]

mutual

theorem Tree.mem_flagGroups {changes : FlagChanges} :
    (tree : Tree) → (changes ∈ tree.flagGroups ↔ .flags changes ∈ tree.parts)
  | .flags _ => by simp [Tree.flagGroups, Tree.parts]
  | .repetition _ _ inner => by rw [Tree.flagGroups, Tree.parts, Tree.mem_flagGroups inner]
  | .group name _ inner => by cases name <;> simp [Tree.flagGroups, Tree.parts, Tree.mem_flagGroups inner]
  | .alternation branches => by rw [Tree.flagGroups, Tree.parts, Tree.mem_allFlagGroups branches]
  | .sequence items => by rw [Tree.flagGroups, Tree.parts, Tree.mem_allFlagGroups items]
  | .empty | .literal _ | .dot | .look _ | .unicode _ _ | .perl _ _ | .bracketed _ _ => by
    simp [Tree.flagGroups, Tree.parts]

theorem Tree.mem_allFlagGroups {changes : FlagChanges} :
    (items : List Tree) → (changes ∈ Tree.flagGroups.allFlagGroups items ↔
      .flags changes ∈ Tree.parts.allParts items)
  | [] => by simp [Tree.flagGroups.allFlagGroups, Tree.parts.allParts]
  | item :: rest => by
    rw [Tree.flagGroups.allFlagGroups, Tree.parts.allParts, List.mem_append, List.mem_append,
      Tree.mem_flagGroups item, Tree.mem_allFlagGroups rest]

end

theorem Tree.enables_iff {flag : Flag} {tree : Tree} :
    tree.enables flag = true ↔ ∃ changes, .flags changes ∈ tree.parts ∧
      (flag, true) ∈ changes := by
  simp [Tree.enables, Tree.mem_flagGroups]

/-- A named member stands for a set. -/
def ClassSet.HasSet : ClassSet → Prop
  | .unicode _ name => name.set?.isSome
  | _ => True

def Part.Known : Part → Prop
  | .unicode name => name.set?.isSome
  | .brackets set => ∀ member ∈ set.members, member.HasSet
  | _ => True

/-- All names in the tree stand for sets. -/
def Tree.Known (tree : Tree) : Prop := ∀ part ∈ tree.parts, part.Known

mutual

theorem ClassSet.known_of_meaning? {flags : Flags} :
    (set : ClassSet) → (set.meaning? flags).isSome → ∀ member ∈ set.members, member.HasSet
  | .unicode negated name, meant => by
    rw [ClassSet.meaning?, unicodeSet] at meant
    split at meant
    · rw [Option.isSome_map] at meant
      simpa [ClassSet.members, ClassSet.HasSet] using meant
    · contradiction
  | .bracketed negated inner, meant => by
    rw [ClassSet.meaning?] at meant
    have known := ClassSet.known_of_meaning? inner (Option.isSome_of_isSome_bind meant)
    rw [ClassSet.members, List.forall_mem_append, List.forall_mem_singleton]
    exact ⟨known, trivial⟩
  | .union items, meant => by
    rw [ClassSet.meaning?, Option.isSome_map] at meant
    rw [ClassSet.members]
    exact ClassSet.known_of_all items meant
  | .operation operator left right, meant => by
    rw [ClassSet.meaning?] at meant
    have knownLeft := ClassSet.known_of_meaning? left (Option.isSome_of_isSome_bind meant)
    obtain ⟨set, meant⟩ := Option.isSome_iff_exists.1 meant
    simp only [Option.bind_eq_bind, Option.bind_eq_some_iff] at meant
    obtain ⟨_, _, other, meantRight, _⟩ := meant
    have knownRight := ClassSet.known_of_meaning? right (Option.isSome_of_eq_some meantRight)
    rw [ClassSet.members, List.forall_mem_append]
    exact ⟨knownLeft, knownRight⟩
  | .empty, _ | .literal _, _ | .range _ _, _ | .ascii _ _, _ | .perl _ _, _ => by
    simp [ClassSet.members, ClassSet.HasSet]

theorem ClassSet.known_of_all {flags : Flags} :
    (items : List ClassSet) → (ClassSet.meaning?.all flags items).isSome →
      ∀ member ∈ ClassSet.members.allMembers items, member.HasSet
  | [], _ => by simp [ClassSet.members.allMembers]
  | item :: rest, meant => by
    obtain ⟨sets, meant⟩ := Option.isSome_iff_exists.1 meant
    simp only [ClassSet.meaning?.all, Option.bind_eq_bind, Option.bind_eq_some_iff] at meant
    obtain ⟨_, meantItem, _, meantRest, _⟩ := meant
    have knownItem := ClassSet.known_of_meaning? item (Option.isSome_of_eq_some meantItem)
    have knownRest := ClassSet.known_of_all rest (Option.isSome_of_eq_some meantRest)
    rw [ClassSet.members.allMembers, List.forall_mem_append]
    exact ⟨knownItem, knownRest⟩

end

mutual

theorem Tree.known_of_meaning? {flags : Flags} :
    (tree : Tree) → (tree.meaning? flags).isSome → tree.Known
  | .unicode negated name, meant => by
    rw [Tree.meaning?, Option.isSome_map, unicodeSet] at meant
    split at meant
    · rw [Option.isSome_map] at meant
      simpa [Tree.Known, Tree.parts, Part.Known] using meant
    · contradiction
  | .bracketed negated set, meant => by
    rw [Tree.meaning?] at meant
    have closed := Option.isSome_of_isSome_bind meant
    have known := ClassSet.known_of_meaning? set (Option.isSome_of_isSome_bind closed)
    simpa [Tree.Known, Tree.parts, Part.Known] using known
  | .repetition least most inner, meant => by
    rw [Tree.meaning?] at meant
    exact Tree.known_of_meaning? inner (Option.isSome_of_isSome_bind meant)
  | .group name changes inner, meant => by
    rw [Tree.meaning?] at meant
    have known := Tree.known_of_meaning? inner (Option.isSome_of_isSome_bind meant)
    cases name <;> simpa [Tree.Known, Tree.parts, Part.Known] using known
  | .alternation branches, meant => Tree.known_of_alternatives branches meant
  | .sequence items, meant => Tree.known_of_sequence items meant
  | .empty, _ | .flags _, _ | .literal _, _ | .dot, _ | .look _, _ | .perl _ _, _ => by
    simp [Tree.Known, Tree.parts, Part.Known]

theorem Tree.known_of_alternatives {flags : Flags} :
    (branches : List Tree) → (Tree.meaning?.alternatives flags branches).isSome →
      ∀ part ∈ Tree.parts.allParts branches, part.Known
  | [], _ => by simp [Tree.parts.allParts]
  | [branch], meant => by
    rw [Tree.parts.allParts, Tree.parts.allParts, List.append_nil]
    exact Tree.known_of_meaning? branch meant
  | branch :: other :: rest, meant => by
    rw [Tree.meaning?.alternatives.eq_3 _ _ _ (by simp)] at meant
    obtain ⟨found, meant⟩ := Option.isSome_iff_exists.1 meant
    simp only [Option.bind_eq_bind, Option.bind_eq_some_iff] at meant
    obtain ⟨_, meantFirst, _, meantRest, _⟩ := meant
    have knownFirst := Tree.known_of_meaning? branch (Option.isSome_of_eq_some meantFirst)
    have knownRest := Tree.known_of_alternatives (other :: rest) (Option.isSome_of_eq_some meantRest)
    rw [Tree.parts.allParts, List.forall_mem_append]
    exact ⟨knownFirst, knownRest⟩

theorem Tree.known_of_sequence {flags : Flags} :
    (items : List Tree) → (Tree.meaning?.sequence flags items).isSome →
      ∀ part ∈ Tree.parts.allParts items, part.Known
  | [], _ => by simp [Tree.parts.allParts]
  | item :: rest, meant => by
    rw [Tree.meaning?.sequence] at meant
    obtain ⟨found, meant⟩ := Option.isSome_iff_exists.1 meant
    simp only [Option.bind_eq_bind, Option.bind_eq_some_iff] at meant
    obtain ⟨_, meantItem, _, meantRest, _⟩ := meant
    have knownItem := Tree.known_of_meaning? item (Option.isSome_of_eq_some meantItem)
    have knownRest := Tree.known_of_sequence rest (Option.isSome_of_eq_some meantRest)
    rw [Tree.parts.allParts, List.forall_mem_append]
    exact ⟨knownItem, knownRest⟩

end

end EventRouting.Regex
