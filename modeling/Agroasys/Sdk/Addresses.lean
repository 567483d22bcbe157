import Agroasys.Sdk.Ethers

namespace Agroasys.Sdk

open Agroasys.Runtime Agroasys.Escrow

section Digits

/-- The hexadecimal digits of a number, in lower case, as many as asked for. -/
def hexDigits : Nat → Nat → List Char
  | 0, _ => []
  | width + 1, number => hexDigits width (number / 16) ++ [Nat.digitChar (number % 16)]

@[simp] theorem length_hexDigits : (hexDigits width number).length = width := by
  induction width generalizing number with
  | zero => rfl
  | succ width ih => rw [hexDigits, List.length_append, ih, List.length_singleton]

/-- A digit of either case stands for its value. -/
theorem hexValue_digit (valued : hexValue char = some value) : value < 16 ∧ char.toLower = Nat.digitChar value := by
  have code : char = Char.ofNat char.toNat := (Char.ofNat_toNat char).symm
  have zero : '0'.toNat = 48 := rfl
  unfold hexValue at valued
  split at valued
  · rename_i digit
    simp only [Char.isDigit, Bool.and_eq_true, decide_eq_true_eq, UInt32.le_iff_toNat_le, ge_iff_le] at digit
    have bounds : 48 ≤ char.toNat ∧ char.toNat ≤ 57 := digit
    rw [code]
    generalize char.toNat = number at *
    obtain ⟨least, most⟩ := bounds
    interval_cases number <;> (cases valued; decide)
  · split at valued
    · rename_i letter
      simp only [Bool.and_eq_true, decide_eq_true_eq, Char.le_def, UInt32.le_iff_toNat_le] at letter
      have bounds : 97 ≤ char.toNat ∧ char.toNat ≤ 102 := letter
      rw [code]
      generalize char.toNat = number at *
      obtain ⟨least, most⟩ := bounds
      interval_cases number <;> (cases valued; decide)
    · rw [Option.ite_none_right_eq_some] at valued
      obtain ⟨letter, valued⟩ := valued
      simp only [Bool.and_eq_true, decide_eq_true_eq, Char.le_def, UInt32.le_iff_toNat_le] at letter
      have bounds : 65 ≤ char.toNat ∧ char.toNat ≤ 70 := letter
      rw [code]
      generalize char.toNat = number at *
      obtain ⟨least, most⟩ := bounds
      interval_cases number <;> (cases valued; decide)

/-- The case of a digit does not change its value. -/
theorem hexValue_toLower (char : Char) : hexValue char.toLower = hexValue char := by
  by_cases upper : char.isUpper = true
  · have code : char = Char.ofNat char.toNat := (Char.ofNat_toNat char).symm
    simp only [Char.isUpper, decide_eq_true_eq, UInt32.le_iff_toNat_le, ge_iff_le] at upper
    have bounds : 65 ≤ char.toNat ∧ char.toNat ≤ 90 := upper
    rw [code]
    generalize char.toNat = number at *
    obtain ⟨least, most⟩ := bounds
    interval_cases number <;> rfl
  · rw [Char.toLower_eq_of_not_isUpper upper]

private theorem hexNumber_toLower (digits : List Char) : hexNumber (digits.map Char.toLower) = hexNumber digits := by
  unfold hexNumber
  rw [List.foldlM_map]
  simp only [hexValue_toLower]

private theorem hexNumber_append (digits : List Char) (digit : Char) :
    hexNumber (digits ++ [digit]) = (hexNumber digits).bind fun number => (hexValue digit).map (16 * number + ·) := by
  rw [hexNumber, List.foldlM_append]
  congr 1
  funext number
  exact bind_pure _

/-- Digits are, but for their case, those of the number that they write. -/
theorem hexDigits_spelled (read : hexNumber digits = some number) :
    digits.map Char.toLower = hexDigits digits.length number ∧ number < 16 ^ digits.length := by
  induction digits using List.reverseRecOn generalizing number with
  | nil =>
    cases read
    exact ⟨rfl, Nat.one_pos⟩
  | append_singleton digits digit ih =>
    rw [hexNumber_append] at read
    obtain ⟨front, before, last⟩ := Option.bind_eq_some_iff.mp read
    obtain ⟨value, valued, rfl⟩ := Option.map_eq_some_iff.mp last
    obtain ⟨small, lowered⟩ := hexValue_digit valued
    obtain ⟨same, bound⟩ := ih before
    have quotient : (16 * front + value) / 16 = front := by omega
    have remainder : (16 * front + value) % 16 = value := by omega
    constructor
    · rw [List.map_append, List.length_append, List.length_singleton, hexDigits, quotient, remainder, same]
      exact congrArg (hexDigits digits.length front ++ [·]) lowered
    · rw [List.length_append, List.length_singleton, pow_succ]
      omega

private theorem hexValue_digitChar (small : value < 16) : hexValue (Nat.digitChar value) = some value := by
  interval_cases value <;> rfl

/-- A number is read back from its digits. -/
theorem hexNumber_hexDigits (within : number < 16 ^ width) : hexNumber (hexDigits width number) = some number := by
  induction width generalizing number with
  | zero =>
    rw [pow_zero, Nat.lt_one_iff] at within
    subst within
    rfl
  | succ width ih =>
    rw [pow_succ] at within
    rw [hexDigits, hexNumber_append, ih (by omega), Option.bind_some, hexValue_digitChar (Nat.mod_lt _ (by decide)),
      Option.map_some, Nat.div_add_mod]

private theorem digitChar_alphanum (small : value < 16) :
    (Nat.digitChar value).isAlphanum = true ∧ (Nat.digitChar value).toLower = Nat.digitChar value ∧
      Nat.digitChar value ≠ 'x' := by
  interval_cases value <;> decide

/-- Digits are of lower case, and the mark of the prefix is none of them. -/
theorem mem_hexDigits (member : char ∈ hexDigits width number) :
    char.isAlphanum = true ∧ char.toLower = char ∧ char ≠ 'x' := by
  induction width generalizing number with
  | zero => cases member
  | succ width ih =>
    rcases List.mem_append.mp member with front | last
    · exact ih front
    · rw [List.mem_singleton.mp last]
      exact digitChar_alphanum (Nat.mod_lt _ (by decide))

private theorem hexDigits_zero (width : Nat) : hexDigits width 0 = List.replicate width '0' := by
  induction width with
  | zero => rfl
  | succ width ih =>
    rw [hexDigits, Nat.zero_div, ih, List.replicate_succ']
    rfl

private theorem lowered_zeros (lowered : digits.map Char.toLower = List.replicate width '0') :
    digits = List.replicate width '0' := by
  have length := congrArg List.length lowered
  rw [List.length_map, List.length_replicate] at length
  rw [← length] at lowered ⊢
  refine List.eq_replicate_of_mem fun digit member => ?_
  have among : digit.toLower ∈ digits.map Char.toLower := List.mem_map_of_mem member
  rw [lowered] at among
  exact (toLower_mark (by decide) digit).mp (List.eq_of_mem_replicate among)

/-- Digits write zero only as zeros, also up to what they can hold. -/
theorem hexNumber_residue (read : hexNumber digits = some number) (residue : number % 16 ^ digits.length = 0) :
    digits = List.replicate digits.length '0' := by
  obtain ⟨same, bound⟩ := hexDigits_spelled read
  rw [Nat.mod_eq_of_lt bound] at residue
  rw [residue, hexDigits_zero] at same
  exact lowered_zeros same

theorem hexDigits_lower (width number : Nat) : (hexDigits width number).map Char.toLower = hexDigits width number :=
  (List.map_congr_left fun _ member => (mem_hexDigits member).2.1).trans (List.map_id _)

private theorem hexDigits_valued (member : char ∈ hexDigits width number) : (hexValue char).isSome = true := by
  induction width generalizing number with
  | zero => cases member
  | succ width ih =>
    rcases List.mem_append.mp member with front | last
    · exact ih front
    · rw [List.mem_singleton.mp last, hexValue_digitChar (Nat.mod_lt _ (by decide))]
      rfl

end Digits

section Texts

/-- The address in lower case. -/
def addressText (address : Address) : String :=
  "0x" ++ String.ofList (hexDigits 40 address.bits.toNat)

theorem addressText_toList (address : Address) :
    (addressText address).toList = '0' :: 'x' :: hexDigits 40 address.bits.toNat := by
  have start : "0x".toList = ['0', 'x'] := rfl
  rw [addressText, String.toList_append, start, String.toList_ofList, List.cons_append, List.cons_append, List.nil_append]

theorem ofNumber_bits (address : Address) : Address.ofNumber address.bits.toNat = address := by
  rw [Address.ofNumber, BitVec.ofNat_toNat, BitVec.setWidth_eq]

private theorem address_bound (address : Address) : address.bits.toNat < 16 ^ 40 :=
  address.bits.isLt.trans_eq (by norm_num)

theorem addressText_injective (same : addressText address = addressText other) : address = other := by
  have digits := congrArg String.toList same
  rw [addressText_toList, addressText_toList] at digits
  have numbers := congrArg hexNumber (List.cons.inj (List.cons.inj digits).2).2
  rw [hexNumber_hexDigits (address_bound address), hexNumber_hexDigits (address_bound other)] at numbers
  rw [← ofNumber_bits address, Option.some.inj numbers, ofNumber_bits]

private theorem isAddressDigits_length (spelled : isAddressDigits digits = true) : digits.length = 40 := by
  unfold isAddressDigits at spelled
  simp only [Bool.and_eq_true, decide_eq_true_eq] at spelled
  exact spelled.1

theorem prefixedDigits_eq_some {text : List Char} (read : prefixedDigits wide text = some digits) :
    ∃ mark, text = '0' :: mark :: digits ∧ (mark = 'x' ∨ wide ∧ mark = 'X') ∧ digits.length = 40 := by
  unfold prefixedDigits at read
  split at read
  · rename_i mark given
    rw [Option.ite_none_right_eq_some] at read
    obtain ⟨⟨marked, spelled⟩, same⟩ := read
    cases same
    exact ⟨mark, rfl, marked, isAddressDigits_length spelled⟩
  · cases read

/-- Forty digits write an address. -/
theorem digits_address (length : digits.length = 40) (read : hexNumber digits = some number) :
    digits.map Char.toLower = hexDigits 40 (Address.ofNumber number).bits.toNat := by
  obtain ⟨same, bound⟩ := hexDigits_spelled read
  rw [length] at same bound
  have bits : (Address.ofNumber number).bits.toNat = number := by
    change (BitVec.ofNat 160 number).toNat = number
    rw [BitVec.toNat_ofNat]
    exact Nat.mod_eq_of_lt bound
  rw [same, bits]

theorem toLowerCase_toList (text : String) : (toLowerCase text).toList = text.toList.map Char.toLower := by
  rw [toLowerCase, String.toList_ofList]

/-- The prefix and forty digits. -/
def Prefixed (text : String) (address : Address) : Prop :=
  ∃ digits, prefixedDigits false text.toList = some digits ∧ (hexNumber digits).map Address.ofNumber = some address

theorem Prefixed.lowered (spelled : Prefixed text address) : toLowerCase text = addressText address := by
  obtain ⟨digits, found, read⟩ := spelled
  obtain ⟨number, numbered, rfl⟩ := Option.map_eq_some_iff.mp read
  obtain ⟨mark, given, marked, length⟩ := prefixedDigits_eq_some found
  have small : mark = 'x' := marked.resolve_right fun wide => Bool.false_ne_true wide.1
  apply String.toList_inj.mp
  rw [toLowerCase_toList, given, small, addressText_toList, List.map_cons, List.map_cons, digits_address length numbered]
  rfl

/-- Texts of ICAP are marked as such. -/
def Ethers.Marked (ethers : Ethers) : Prop :=
  ∀ text address, ethers.icap text = some address → ∃ rest, text.toList = 'X' :: 'E' :: rest

/-- Texts of ICAP are of letters and digits, and its digits are read in either case. -/
structure Ethers.Caseless (ethers : Ethers) : Prop where
  plain : ∀ text address, ethers.icap text = some address → ∀ char ∈ text.toList, char.isAlphanum = true
  cased : ∀ text other address address', ethers.icap text = some address → ethers.icap other = some address' →
    toLowerCase text = toLowerCase other → address = address'

/-- The checksum is in the case of the digits. -/
structure Ethers.Checksums (ethers : Ethers) : Prop where
  kept : ∀ digits, (ethers.checksum digits).map Char.toLower = digits.map Char.toLower
  settled : ∀ digits, ethers.checksum (ethers.checksum digits) = ethers.checksum digits

/-- The address as ethers writes it. -/
def Ethers.format (ethers : Ethers) (address : Address) : String :=
  "0x" ++ String.ofList (ethers.checksum (hexDigits 40 address.bits.toNat))

variable {ethers : Ethers}

/-- An address is spelled with the prefix, without it, or in ICAP. -/
theorem getAddress_cases (read : ethers.getAddress text = some address) :
    Prefixed text address ∨ text.toList.map Char.toLower = hexDigits 40 address.bits.toNat ∨
      ethers.icap text = some address := by
  unfold Ethers.getAddress at read
  split at read
  · rename_i digits found
    rw [Option.ite_none_left_eq_some] at read
    obtain ⟨_, read⟩ := read
    rcases Option.or_eq_some_iff.mp found with strict | ⟨_, bare⟩
    · exact .inl ⟨digits, strict, read⟩
    · rw [Option.ite_none_right_eq_some] at bare
      obtain ⟨spelled, same⟩ := bare
      cases same
      obtain ⟨number, numbered, rfl⟩ := Option.map_eq_some_iff.mp read
      exact .inr (.inl (digits_address (isAddressDigits_length spelled) numbered))
  · exact .inr (.inr read)

/-- In lower case, what ethers writes is of the address that it is read as. -/
theorem getAddress_spelled (marked : ethers.Marked) (read : ethers.getAddress text = some address)
    (same : toLowerCase text = addressText other) : Prefixed text address ∧ address = other := by
  have lists := congrArg String.toList same
  rw [toLowerCase_toList, addressText_toList] at lists
  rcases getAddress_cases read with spelled | bare | coded
  · exact ⟨spelled, addressText_injective (spelled.lowered.symm.trans same)⟩
  · have lengths := congrArg List.length (bare.symm.trans lists)
    simp at lengths
  · obtain ⟨rest, start⟩ := marked text address coded
    rw [start] at lists
    cases lists

theorem getAddress_zero (marked : ethers.Marked) (read : ethers.getAddress zeroAddress = some address) :
    address = .zero := by
  have same : toLowerCase zeroAddress = addressText .zero := by decide
  exact (getAddress_spelled marked read same).2

/-- Zeros have no case. -/
theorem zero_spelled (marked : ethers.Marked) (read : ethers.getAddress text = some address)
    (same : toLowerCase text = addressText .zero) : text = zeroAddress := by
  obtain ⟨⟨digits, found, _⟩, _⟩ := getAddress_spelled marked read same
  obtain ⟨mark, given, marked, _⟩ := prefixedDigits_eq_some found
  have small : mark = 'x' := marked.resolve_right fun wide => Bool.false_ne_true wide.1
  have lists := congrArg String.toList same
  rw [toLowerCase_toList, given, small, addressText_toList] at lists
  have zeros : digits.map Char.toLower = List.replicate 40 '0' := (List.cons.inj (List.cons.inj lists).2).2
  apply String.toList_inj.mp
  rw [given, small, lowered_zeros zeros]
  rfl

/-- Texts that differ in the case of their letters alone are of one address. -/
theorem getAddress_lowered (marked : ethers.Marked) (caseless : ethers.Caseless)
    (read : ethers.getAddress text = some address) (read' : ethers.getAddress other = some address')
    (same : toLowerCase text = toLowerCase other) : address = address' := by
  have lists := congrArg String.toList same
  rw [toLowerCase_toList, toLowerCase_toList] at lists
  have icapStart {text : String} {address : Address} (coded : ethers.icap text = some address) :
      ∃ rest, text.toList.map Char.toLower = 'x' :: 'e' :: rest := by
    obtain ⟨rest, start⟩ := marked text address coded
    exact ⟨rest.map Char.toLower, by rw [start]; rfl⟩
  have prefixedStart {text : String} {address : Address} (spelled : Prefixed text address) :
      text.toList.map Char.toLower = '0' :: 'x' :: hexDigits 40 address.bits.toNat := by
    rw [← toLowerCase_toList, spelled.lowered, addressText_toList]
  have bareStart {number : Nat} {rest : List Char} : hexDigits 40 number ≠ 'x' :: rest := by
    intro start
    have first : 'x' ∈ hexDigits 40 number := start ▸ List.mem_cons_self
    exact (mem_hexDigits first).2.2 rfl
  rcases getAddress_cases read with first | first | first <;> rcases getAddress_cases read' with second | second | second
  · apply addressText_injective
    rw [← first.lowered, ← second.lowered, same]
  · rw [prefixedStart first, second] at lists
    have lengths := congrArg List.length lists
    simp at lengths
  · obtain ⟨rest, start⟩ := icapStart second
    rw [prefixedStart first, start] at lists
    cases lists
  · rw [first, prefixedStart second] at lists
    have lengths := congrArg List.length lists
    simp at lengths
  · apply addressText_injective
    rw [addressText, addressText, ← first, ← second, lists]
  · obtain ⟨rest, start⟩ := icapStart second
    rw [first, start] at lists
    exact absurd lists bareStart
  · obtain ⟨rest, start⟩ := icapStart first
    rw [start, prefixedStart second] at lists
    cases lists
  · obtain ⟨rest, start⟩ := icapStart first
    rw [start, second] at lists
    exact absurd lists.symm bareStart
  · exact caseless.cased text other address address' first second same

theorem isAlphanum_toLower (char : Char) : char.toLower.isAlphanum = char.isAlphanum := by
  by_cases upper : char.isUpper = true
  · have alpha : char.isAlpha = true := by rw [Char.isAlpha, upper, Bool.true_or]
    rw [Char.isAlphanum, Char.isAlpha_toLower_eq_isAlpha, Char.isAlphanum, alpha, Bool.true_or, Bool.true_or]
  · rw [Char.toLower_eq_of_not_isUpper upper]

/-- The text of an address is of letters and digits. -/
theorem getAddress_plain (caseless : ethers.Caseless) (read : ethers.getAddress text = some address) :
    ∀ char ∈ text.toList, char.isAlphanum = true := by
  intro char member
  have lowered : char.toLower ∈ text.toList.map Char.toLower := List.mem_map_of_mem member
  rw [← isAlphanum_toLower]
  rcases getAddress_cases read with spelled | bare | coded
  · rw [← toLowerCase_toList, spelled.lowered, addressText_toList] at lowered
    rcases List.mem_cons.mp lowered with zero | lowered
    · rw [zero]
      rfl
    · rcases List.mem_cons.mp lowered with mark | digit
      · rw [mark]
        rfl
      · exact (mem_hexDigits digit).1
  · rw [bare] at lowered
    exact (mem_hexDigits lowered).1
  · rw [isAlphanum_toLower]
    exact caseless.plain text address coded char member

/-- Digits of either case for those of a number. -/
theorem isAddressDigits_lowered (lowered : digits.map Char.toLower = hexDigits 40 number) : isAddressDigits digits = true := by
  have length := congrArg List.length lowered
  rw [List.length_map, length_hexDigits] at length
  unfold isAddressDigits
  rw [length, decide_eq_true rfl, Bool.true_and, List.all_eq_true]
  intro digit member
  have among : digit.toLower ∈ hexDigits 40 number := lowered ▸ List.mem_map_of_mem member
  rw [← hexValue_toLower]
  exact hexDigits_valued among

private theorem prefixedDigits_marked (spelled : isAddressDigits digits = true) :
    prefixedDigits wide ('0' :: 'x' :: digits) = some digits := by
  simp [prefixedDigits, spelled]

private theorem format_toList (ethers : Ethers) (address : Address) :
    (ethers.format address).toList = '0' :: 'x' :: ethers.checksum (hexDigits 40 address.bits.toNat) := by
  have start : "0x".toList = ['0', 'x'] := rfl
  rw [Ethers.format, String.toList_append, start, String.toList_ofList, List.cons_append, List.cons_append,
    List.nil_append]

private theorem format_digits (checksums : ethers.Checksums) (address : Address) :
    prefixedDigits false (ethers.format address).toList = some (ethers.checksum (hexDigits 40 address.bits.toNat)) ∧
      hexNumber (ethers.checksum (hexDigits 40 address.bits.toNat)) = some address.bits.toNat := by
  have lowered := (checksums.kept (hexDigits 40 address.bits.toNat)).trans (hexDigits_lower 40 address.bits.toNat)
  constructor
  · rw [format_toList]
    exact prefixedDigits_marked (isAddressDigits_lowered lowered)
  · rw [← hexNumber_toLower, lowered, hexNumber_hexDigits (address_bound address)]

/-- What ethers writes, it reads. -/
theorem getAddress_format (checksums : ethers.Checksums) (address : Address) :
    ethers.getAddress (ethers.format address) = some address := by
  obtain ⟨found, numbered⟩ := format_digits checksums address
  have strict : addressDigits (ethers.format address).toList =
      some (ethers.checksum (hexDigits 40 address.bits.toNat)) := by
    rw [addressDigits, found, Option.some_or]
  have spelled : ethers.misspelled (ethers.checksum (hexDigits 40 address.bits.toNat)) = false := by
    rw [Ethers.misspelled, checksums.settled]
    simp
  unfold Ethers.getAddress
  rw [strict]
  dsimp only
  rw [spelled, numbered, if_neg Bool.false_ne_true, Option.map_some, ofNumber_bits]

theorem format_lowered (checksums : ethers.Checksums) (address : Address) :
    toLowerCase (ethers.format address) = addressText address := by
  obtain ⟨found, numbered⟩ := format_digits checksums address
  have spelled : Prefixed (ethers.format address) address := by
    refine ⟨_, found, ?_⟩
    rw [numbered, Option.map_some, ofNumber_bits]
  exact spelled.lowered

/-- An address as ethers writes it is that address in a call. -/
theorem resolveAddress_format (checksums : ethers.Checksums) (address : Address) :
    ethers.resolveAddress (ethers.format address) = some address := by
  have wide : prefixedDigits true (ethers.format address).toList =
      some (ethers.checksum (hexDigits 40 address.bits.toNat)) := by
    have lowered := (checksums.kept (hexDigits 40 address.bits.toNat)).trans (hexDigits_lower 40 address.bits.toNat)
    rw [format_toList]
    exact prefixedDigits_marked (isAddressDigits_lowered lowered)
  unfold Ethers.resolveAddress
  rw [wide]
  exact getAddress_format checksums address

end Texts

end Agroasys.Sdk
