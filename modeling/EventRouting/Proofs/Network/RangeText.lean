import EventRouting.Proofs.Structured.Payloads

set_option autoImplicit false

namespace EventRouting.IpRange

variable {subnets : Subnets} {range : IpRange}

/-- Only a single address is written as one. -/
theorem writeBy_eq_address_iff :
    range.writeBy subnets = range.firstAddress.write ↔ range.first = range.last := by
  obtain ⟨-, noSlash⟩ := mark_notMem_of_read? (IpAddress.read?_write range.firstAddress)
  rw [writeBy]
  split
  · next same => exact iff_of_true rfl same
  · next different =>
    refine iff_of_false ?_ different
    split
    · next network _ =>
      intro same
      rw [← same, Network.write] at noSlash
      simp at noSlash
    · simp

theorem toDigits_inj {left right : Nat} :
    Nat.toDigits 10 left = Nat.toDigits 10 right ↔ left = right := by
  refine ⟨fun same => ?_, congrArg _⟩
  rw [← IpAddress.decimalValue_toDigits left, same, IpAddress.decimalValue_toDigits]

theorem IsBlock.bits_eq {bits more : Nat} (block : range.IsBlock bits) (other : range.IsBlock more) :
    bits = more := by
  obtain ⟨wide, -, ends⟩ := isBlock_iff_ends.1 block
  obtain ⟨wider, -, again⟩ := isBlock_iff_ends.1 other
  rw [ends, Nat.add_left_cancel_iff, blockSize_eq, blockSize_eq] at again
  have same := Nat.pow_right_injective (Nat.le_refl 2) again
  omega

/-- The text of a range is its address, if it is one, its first address and the bits that it shares
with the others, if it is a block of several, and both ends otherwise; and it reads back as the range.
So it is for every iterator that cuts the range into the largest networks that fit. For any other one
the text reads back only if what it gives as the single network is the range. -/
theorem write_forms (subnets : Subnets) (range : IpRange) :
    (range.writeBy subnets = range.firstAddress.write ↔ range.first = range.last) ∧
    (subnets.Cuts range →
      (∀ bits, range.writeBy subnets = range.firstAddress.write ++ '/' :: Nat.toDigits 10 bits ↔
        range.first < range.last ∧ range.IsBlock bits) ∧
      (range.writeBy subnets = range.firstAddress.write ++ '-' :: range.lastAddress.write ↔
        range.first < range.last ∧ ∀ bits, ¬range.IsBlock bits) ∧
      read (range.writeBy subnets) = .ok range) ∧
    (read (range.writeBy subnets) = .ok range ↔ range.first = range.last ∨
      ∀ network, subnets.single? range = some network →
        ofBlock network.address network.bits = .ok range) := by
  refine ⟨writeBy_eq_address_iff, fun cuts => ⟨fun bits => ?_, ?_, read_writeBy cuts⟩,
    read_writeBy_iff subnets range⟩
  · rcases cuts.writeBy_cases with
      ⟨same, written⟩ | ⟨lower, found, block, written⟩ | ⟨lower, none, written⟩ <;> rw [written]
    · simp [same]
    · simp only [List.append_cancel_left_eq, List.cons.injEq, true_and, toDigits_inj, lower]
      exact ⟨fun same => same ▸ block, block.bits_eq⟩
    · simp [none]
  · rcases cuts.writeBy_cases with
      ⟨same, written⟩ | ⟨lower, found, block, written⟩ | ⟨lower, none, written⟩ <;> rw [written]
    · simp [same]
    · simp only [List.append_cancel_left_eq, List.cons.injEq, lower]
      exact iff_of_false (by simp) fun apart => apart.2 found block
    · simp [none, lower]

/-- All addresses of a family but one are no block. -/
theorem write_forms_all_but_one :
    let range : IpRange := ⟨.v4, 1, 0xffffffff, by decide, by decide⟩
    Subnets.largest.Cuts range ∧ range.write = "0.0.0.1-255.255.255.255".toList ∧
      (∀ bits, ¬range.IsBlock bits) ∧ read range.write = .ok range := by
  intro range
  have cuts := Subnets.largest_cuts range
  obtain ⟨-, forms, -⟩ := write_forms .largest range
  obtain ⟨-, ends, reads⟩ := forms cuts
  have written : range.write = "0.0.0.1-255.255.255.255".toList := by decide +kernel
  have shape : range.write = range.firstAddress.write ++ '-' :: range.lastAddress.write := by
    decide +kernel
  exact ⟨cuts, written, (ends.1 shape).2, reads⟩

end EventRouting.IpRange
