set_option autoImplicit false

namespace EventRouting.Text

/-- White space as Unicode defines it. -/
def isBlank (c : Char) : Bool :=
  let point := c.toNat
  (0x9 ≤ point && point ≤ 0xd) || point == 0x20 || point == 0x85 || point == 0xa0 ||
    point == 0x1680 || (0x2000 ≤ point && point ≤ 0x200a) || point == 0x2028 ||
    point == 0x2029 || point == 0x202f || point == 0x205f || point == 0x3000

def dropBlanks (text : List Char) : List Char := text.dropWhile isBlank

def dropTrailingBlanks (text : List Char) : List Char := (dropBlanks text.reverse).reverse

def trim (text : List Char) : List Char := dropTrailingBlanks (dropBlanks text)

def trimString (text : String) : String := String.ofList (trim text.toList)

@[simp] theorem dropBlanks_nil : dropBlanks [] = [] := rfl

theorem dropBlanks_cons_of_not_blank {c : Char} {rest : List Char} (visible : isBlank c = false) :
    dropBlanks (c :: rest) = c :: rest := by
  simp [dropBlanks, visible]

theorem dropBlanks_cons_of_blank {c : Char} {rest : List Char} (blank : isBlank c = true) :
    dropBlanks (c :: rest) = dropBlanks rest := by
  simp [dropBlanks, blank]

theorem dropBlanks_head (text : List Char) (c : Char) (rest : List Char)
    (shape : dropBlanks text = c :: rest) : isBlank c = false := by
  induction text with
  | nil => simp at shape
  | cons head tail ih =>
    by_cases blank : isBlank head = true
    · exact ih (by rw [← dropBlanks_cons_of_blank blank]; exact shape)
    · rw [dropBlanks_cons_of_not_blank (by simpa using blank)] at shape
      injection shape with same _
      subst same
      simpa using blank

/-- A text with a visible character at either end is already trimmed. -/
theorem trim_of_edges {text : List Char}
    (front : ∀ c ∈ text.head?, isBlank c = false) (back : ∀ c ∈ text.getLast?, isBlank c = false) :
    trim text = text := by
  have left : dropBlanks text = text := by
    cases text with
    | nil => rfl
    | cons c rest => exact dropBlanks_cons_of_not_blank (front c rfl)
  have right : dropBlanks text.reverse = text.reverse := by
    cases shape : text.reverse with
    | nil => rfl
    | cons c rest =>
      exact dropBlanks_cons_of_not_blank (back c (by
        rw [← List.head?_reverse, shape]; rfl))
  rw [trim, dropTrailingBlanks, left, right, List.reverse_reverse]

theorem getLast?_trim (text : List Char) : ∀ c ∈ (trim text).getLast?, isBlank c = false := by
  intro c last
  rw [trim, dropTrailingBlanks, List.getLast?_reverse] at last
  obtain ⟨rest, shape⟩ := List.head?_eq_some_iff.1 last
  exact dropBlanks_head _ c rest shape

end EventRouting.Text
